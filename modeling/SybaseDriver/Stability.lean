/-
This file proves what a request can change, in the way it was done for reading. A
relation that each step of the driver keeps is kept by every method of `command`,
`connection` and `Statement`. The methods that connect are treated first and apart,
because an invariant of the whole driver is no relation that each single step keeps,
but connecting does keep it once executing a query does.
-/

import SybaseDriver.Reading
import SybaseDriver.Statement

namespace Sybase

open Program Connection

variable {σ : Type}

/-! ### Connecting -/

/-- The calls of `connection::init`. -/
def CtCall.isInit : CtCall → Bool
  | conAlloc _ | init _ | connect => true
  | _ => false

/-- The calls of `connection::init` on the handle it has allocated. -/
def CtCall.isConfiguring : CtCall → Bool
  | init _ | connect => true
  | _ => false

/-- What a relation has to hold of for setting up a connection that has its handle to keep it. -/
structure ConfigureStable (cfg : Config σ) (relation : World σ → World σ → Prop) : Prop
    extends RaiseStable relation where
  configures : ∀ (world : World σ) (call : CtCall), call.isConfiguring = true →
    relation world (world.answered cfg.lib .other call)
  configured : ∀ (world : World σ) (connection : Connection),
    connection.stmt = world.connection.stmt →
    connection.mConnection = world.connection.mConnection →
    (world.connection.connected = true → connection.connected = true) →
      relation world { world with connection := connection }

/-- What a relation has to hold of for the calls of `connection::init` to keep it. -/
structure ConnectStable (cfg : Config σ) (relation : World σ → World σ → Prop) : Prop
    extends RaiseStable relation where
  call : ∀ (world : World σ) (call : CtCall), call.isInit = true →
    relation world (world.answered cfg.lib .other call)
  connection : ∀ (world : World σ) (connection : Connection) (nextConnection : ConnectionHandle),
    connection.stmt = world.connection.stmt →
    (world.connection.connected = true → connection.connected = true) →
      relation world { world with connection := connection, nextConnection := nextConnection }

/-- What a relation has to hold of for `connection::init` to keep it, beside the queries that are
executed. -/
structure SessionStable (cfg : Config σ) (relation : World σ → World σ → Prop)
    (stops : Halt → World σ → World σ → Prop) : Prop
    extends BaseStable relation stops, ConnectStable cfg relation

section Session

variable {cfg : Config σ} {relation : World σ → World σ → Prop}
    {stops : Halt → World σ → World σ → Prop}
  [Std.Refl relation] [IsTrans (World σ) relation] {reconnect : Reconnect σ}

namespace BaseStable

variable (stable : BaseStable relation stops)
include stable

theorem keeps_convertEncoding (enc : Encoding) (sql : Text) :
    Keeps relation stops (convertEncoding cfg enc sql) := by
  rw [convertEncoding]
  split
  · exact keeps_pure _
  · exact keeps_bind (stable.keeps_raiseException _ _) fun _ => keeps_pure _

theorem keeps_request {args : Option (List QoreValue)} {needList doBinding cols singleRow : Bool}
    (requests : ∀ query, Keeps relation stops
      (execReadOutput cfg reconnect query args needList doBinding cols singleRow))
    (sql : Text) : Keeps relation stops
      (request cfg reconnect sql args needList doBinding cols singleRow) := by
  refine keeps_bind keeps_get fun world => ?_
  refine keeps_bind (stable.keeps_convertEncoding _ _) fun query => ?_
  split
  · exact keeps_pure _
  · exact keeps_bind (requests _) fun _ => keeps_bind stable.keeps_purgeMessages fun _ =>
      keeps_pure _

theorem keeps_getServerVersion
    (requests : Keeps relation stops
      (execReadOutput cfg reconnect verStr none true true false false)) :
    Keeps relation stops (getServerVersion cfg reconnect) := by
  refine keeps_bind requests fun result => ?_
  split
  · exact keeps_pure _
  · exact keeps_pure _
  · exact keeps_pure _
  · exact stable.keeps_undefined
  · exact keeps_bind (stable.keeps_assert _ _) fun _ => stable.keeps_undefined

omit [IsTrans (World σ) relation] in
theorem keeps_getModuleWrap (statement : StatementId) :
    Keeps relation stops (getModuleWrap statement : Driver σ ModuleWrap) := fun world =>
  (wp_getModuleWrap statement).mpr ⟨fun _ _ => refl_of relation world,
    fun _ => ⟨world, refl_of relation world, stable.halts world _ (by simp)⟩⟩

theorem keeps_checkValid (statement : StatementId) :
    Keeps relation stops (Statement.checkValid statement : Driver σ Int) := by
  refine keeps_bind (stable.keeps_getModuleWrap statement) fun wrap => ?_
  split
  · exact keeps_pure _
  · exact keeps_bind (stable.keeps_raiseException _ _) fun _ => keeps_pure _

theorem keeps_checkOpen : Keeps relation stops (Statement.checkOpen : Driver σ Unit) := by
  refine keeps_bind keeps_get fun world => ?_
  split
  · exact keeps_pure _
  · exact stable.keeps_undefined

theorem keeps_initQuery (cmdText : Text) (args : Option (List QoreValue)) (raw : Bool) :
    Keeps relation stops (initQuery cfg cmdText args raw) := by
  rw [initQuery]
  split
  · exact keeps_bind (stable.keeps_assert _ _) fun _ => keeps_pure _
  · rw [SybaseQuery.init]
    split
    · exact keeps_pure _
    · exact keeps_bind (stable.keeps_raiseException _ _) fun _ => keeps_pure _
    · exact stable.keeps_undefined
    · exact stable.keeps_undefined
    · exact keeps_halt fun world => stable.halts world _ (by simp)

end BaseStable

namespace ConfigureStable

variable (stable : ConfigureStable cfg relation)
include stable

omit [Std.Refl relation] [IsTrans (World σ) relation] in
theorem keeps_modifyConnection {change : Connection → Connection}
    (kept : ∀ connection, (change connection).stmt = connection.stmt ∧
      (change connection).mConnection = connection.mConnection)
    (connects : ∀ connection, connection.connected = true → (change connection).connected = true) :
    Keeps relation stops (modifyConnection change : Driver σ Unit) :=
  keeps_modify fun world => stable.configured world _ (kept _).1 (kept _).2 (connects _)

omit [Std.Refl relation] [IsTrans (World σ) relation] in
theorem keeps_configuring (call : CtCall) (configuring : call.isConfiguring = true) :
    Keeps relation stops (ctCall cfg call) := fun world => stable.configures world call configuring

theorem keeps_initCall {call : CtCall} (configuring : call.isConfiguring = true) (err : String)
    (desc : Retcode → String) {next : Driver σ Int} (rest : Keeps relation stops next) :
    Keeps relation stops (initCall cfg call err desc next) := by
  refine keeps_bind (stable.keeps_configuring call configuring) fun reply => ?_
  split
  · exact keeps_bind (stable.keeps_raiseException _ _) fun _ => keeps_pure _
  · exact rest

theorem keeps_initOption (call : InitCall) (desc : String) :
    Keeps relation stops (initOption cfg call desc) :=
  keeps_bind (stable.keeps_configuring _ rfl) fun _ =>
    keeps_when _ fun _ => stable.keeps_doException _ _

/-- The queries that `init` executes. -/
abbrev Queries (cfg : Config σ) (reconnect : Reconnect σ) (relation : World σ → World σ → Prop)
    (stops : Halt → World σ → World σ → Prop) : Prop :=
  ∀ query args singleRow, Keeps relation stops
    (execReadOutput cfg reconnect query args true true false singleRow)

theorem keeps_setCodePage (base : BaseStable relation stops)
    (clear : ∀ world, relation world { world with xsink := [] })
    (queries : Queries cfg reconnect relation stops) (coll : Text) :
    Keeps relation stops (setCodePage cfg reconnect coll) := by
  refine keeps_tryCatch ?_ fun _ => keeps_pure _
  refine keeps_bind (base.keeps_request (fun query => queries query _ _) _) fun holder => ?_
  refine keeps_bind keeps_isException fun raised => ?_
  split
  · exact keeps_bind base.keeps_purgeMessages fun _ => keeps_modify clear
  · split
    · split
      · exact keeps_when _ fun _ => stable.keeps_modifyConnection (fun _ => ⟨rfl, rfl⟩) fun _ => id
      · exact keeps_pure _
      · exact keeps_pure _
      · exact keeps_pure _
      · exact keeps_pure _
      · exact base.keeps_undefined
    · exact keeps_pure _

theorem keeps_setCollation (base : BaseStable relation stops)
    (clear : ∀ world, relation world { world with xsink := [] })
    (queries : Queries cfg reconnect relation stops) :
    Keeps relation stops (setCollation cfg reconnect) := by
  refine keeps_bind (base.keeps_request (fun query => queries query _ _) _) fun result => ?_
  split
  · split
    · split
      · exact stable.keeps_modifyConnection (fun _ => ⟨rfl, rfl⟩) fun _ => id
      · exact stable.keeps_setCodePage base clear queries _
    · exact keeps_bind (base.keeps_assert _ _) fun _ => base.keeps_undefined
  · exact keeps_pure _

theorem keeps_setEncoding (base : BaseStable relation stops)
    (clear : ∀ world, relation world { world with xsink := [] })
    (queries : Queries cfg reconnect relation stops) :
    Keeps relation stops (setEncoding cfg reconnect) := by
  refine keeps_bind (base.keeps_getServerVersion (queries _ _ _)) fun version => ?_
  refine keeps_bind keeps_isException fun raised => ?_
  split
  · exact keeps_pure _
  · refine keeps_bind (keeps_when _ fun _ =>
      stable.keeps_modifyConnection (fun _ => ⟨rfl, rfl⟩) fun _ => id) fun _ => ?_
    exact keeps_bind keeps_get fun _ => keeps_when _ fun _ =>
      stable.keeps_setCollation base clear queries

variable (encoding : Keeps relation stops (setEncoding cfg reconnect))
include encoding

theorem keeps_initConnect : Keeps relation stops (initConnect cfg reconnect) := by
  refine keeps_bind (stable.keeps_configuring _ rfl) fun reply => ?_
  refine keeps_bind (keeps_when _ fun _ => stable.keeps_doException _ _) fun _ => ?_
  refine keeps_bind (stable.keeps_modifyConnection (fun _ => ⟨rfl, rfl⟩) fun _ _ => rfl) fun _ => ?_
  refine keeps_bind (stable.keeps_initOption _ _) fun _ => ?_
  refine keeps_bind (stable.keeps_initOption _ _) fun _ => ?_
  refine keeps_bind (stable.keeps_initOption _ _) fun _ => ?_
  refine keeps_bind (stable.keeps_initOption _ _) fun _ => ?_
  refine keeps_bind encoding fun _ => keeps_bind stable.keeps_purgeMessages fun _ => ?_
  refine keeps_bind keeps_isException fun raised => ?_
  split
  · exact keeps_pure _
  · exact keeps_pure _

theorem keeps_initLocale : Keeps relation stops (initLocale cfg reconnect) := by
  have connect := stable.keeps_initConnect encoding
  rw [initLocale]
  split
  · exact stable.keeps_initCall rfl _ _ <| stable.keeps_initCall rfl _ _ <|
      stable.keeps_initCall rfl _ _ <| stable.keeps_initCall rfl _ _ connect
  · exact connect

theorem keeps_initPassword : Keeps relation stops (initPassword cfg reconnect) := by
  have locale := stable.keeps_initLocale encoding
  have address : Keeps relation stops (initServerAddr cfg reconnect) := by
    rw [initServerAddr]
    split
    · split
      · exact stable.keeps_initCall rfl _ _ locale
      · exact locale
    · exact locale
  rw [initPassword]
  split
  · exact address
  · exact stable.keeps_initCall rfl _ _ address

end ConfigureStable

namespace ConnectStable

variable (stable : ConnectStable cfg relation)
include stable

omit [Std.Refl relation] [IsTrans (World σ) relation] in
theorem configureStable : ConfigureStable cfg relation where
  toRaiseStable := stable.toRaiseStable
  configures world call configuring := stable.call world call (by
    cases call <;> first | rfl | cases configuring)
  configured world connection same _ connects :=
    stable.connection world connection world.nextConnection same connects

omit [Std.Refl relation] [IsTrans (World σ) relation] in
theorem keeps_initCtCall (call : CtCall) (isInit : call.isInit = true) :
    Keeps relation stops (ctCall cfg call) := fun world => stable.call world call isInit

variable (encoding : Keeps relation stops (setEncoding cfg reconnect))
include encoding

/-- Connecting keeps what its calls, its changes of the connection and its queries keep. The
connection is expected to hold no handle. -/
theorem wp_init {world : World σ} (opened : ¬world.connection.mConnection.isNone = true →
      Halted relation stops world (.assertion .other) world) :
    wp (init cfg reconnect) (fun _ after => relation world after)
      (fun _ after => relation world after)
      (Halted relation stops world) world := by
  rw [init, wp_bind, wp_get, wp_bind, wp_assert]
  refine ⟨fun failed => opened fun isNone => by simp [isNone] at failed, fun _ => ?_⟩
  rw [wp_bind, wp_modifyConnection]
  refine keeps_after (stable.connection world _ world.nextConnection rfl id) ?_
  refine keeps_bind (stable.keeps_initCtCall _ rfl) fun reply => ?_
  split
  · exact keeps_bind (stable.keeps_raiseException _ _) fun _ => keeps_pure _
  · refine keeps_bind (keeps_modify fun state => stable.connection state _ _ rfl id) fun _ => ?_
    exact stable.configureStable.keeps_initCall rfl _ _ <|
      stable.configureStable.keeps_initCall rfl _ _ <|
      stable.configureStable.keeps_initCall rfl _ _
        (stable.configureStable.keeps_initPassword encoding)

end ConnectStable

namespace SessionStable

variable (stable : SessionStable cfg relation stops)
include stable

theorem keeps_setEncoding (clear : ∀ world, relation world { world with xsink := [] })
    (queries : ConfigureStable.Queries cfg reconnect relation stops) :
    Keeps relation stops (setEncoding cfg reconnect) :=
  stable.toConnectStable.configureStable.keeps_setEncoding stable.toBaseStable clear queries

/-- Connecting keeps what its calls, its changes of the connection and its queries keep. -/
theorem keeps_init (encoding : Keeps relation stops (setEncoding cfg reconnect)) :
    Keeps relation stops (init cfg reconnect) := fun world =>
  stable.toConnectStable.wp_init encoding fun _ =>
    ⟨world, refl_of relation world, stable.halts world _ (by simp)⟩

end SessionStable

end Session

/-! ### Commands -/

/-- The calls that set up a command. -/
def CtCall.isBinding : CtCall → Bool
  | command _ _ | param _ _ _ _ _ _ => true
  | _ => false

/-- The calls that end a command or a connection. -/
def CtCall.isClosing : CtCall → Bool
  | cancel _ | cmdDrop _ | close _ | conDrop _ => true
  | _ => false

/-- What a relation has to hold of for binding a query to a command to keep it: the calls are about
the handle the command holds. -/
structure SetUpStable (cfg : Config σ) (id : CommandId) (relation : World σ → World σ → Prop)
    (stops : Halt → World σ → World σ → Prop) : Prop extends BaseStable relation stops where
  bind : ∀ {world : World σ} {cmd : Command} (call : CtCall),
    world.commands id = some cmd → call.isBinding = true → call.command? = some cmd.mCmd →
      relation world (world.answered cfg.lib .other call)
  query : ∀ (world : World σ) (query : SybaseQuery), relation world { world with
    commands := Function.update world.commands id
      ((world.commands id).map fun cmd => { cmd with query := some query }) }

/-- What a relation has to hold of for binding the parameters of a query to keep it. -/
structure ParamStable (cfg : Config σ) (id : CommandId) (relation : World σ → World σ → Prop)
    (stops : Halt → World σ → World σ → Prop) : Prop extends BaseStable relation stops where
  param : ∀ {world : World σ} {cmd : Command} (name : Text) (datatype : Datatype) (format : Format)
    (maxlength : Int) (data : ParamData), world.commands id = some cmd →
      relation world (world.answered cfg.lib .other (.param cmd.mCmd name datatype format
        maxlength data))

/-- What a relation has to hold of for invalidating the registered statement to keep it, where
disconnecting a command does. -/
structure InvalidatingStable (cfg : Config σ) (relation : World σ → World σ → Prop)
    (stops : Halt → World σ → World σ → Prop) : Prop extends BaseStable relation stops where
  disconnects : ∀ id, Keeps relation stops (Command.cancelDisconnect cfg id)
  noted : ∀ (world : World σ) (statement : StatementId),
    relation world (world.record .other (.invalidate statement))
  invalid : ∀ (world : World σ) (statement : StatementId), relation world { world with
    statements := Function.update world.statements statement
      ((world.statements statement).map fun wrap =>
        { wrap with m := { wrap.m with valid := false } }) }
  unregister : ∀ world : World σ, relation world { world with
    connection := { world.connection with stmt := none } }

/-- What a relation has to hold of for binding a query to a command to keep it. -/
structure BindStable (cfg : Config σ) (id : CommandId) (relation : World σ → World σ → Prop)
    (stops : Halt → World σ → World σ → Prop) : Prop extends BaseStable relation stops where
  bind : ∀ (world : World σ) (call : CtCall), call.isBinding = true →
    relation world (world.answered cfg.lib .other call)
  query : ∀ (world : World σ) (query : SybaseQuery), relation world { world with
    commands := Function.update world.commands id
      ((world.commands id).map fun cmd => { cmd with query := some query }) }

/-- What a relation has to hold of for destroying a command to keep it. An exception leaves a
destructor only after a `ct_cancel` of `command::clear` that failed. -/
structure DestroyStable (cfg : Config σ) (id : CommandId) (relation : World σ → World σ → Prop)
    (stops : Halt → World σ → World σ → Prop) : Prop extends BaseStable relation stops where
  clear : ∀ (world : World σ) (cmd : Option Handle),
    (cfg.lib.reply (.cancel cmd) world.env).1.code = .succeed →
      relation world (world.answered cfg.lib .clear (.cancel cmd))
  terminated : ∀ (world : World σ) (cmd : Option Handle),
    (cfg.lib.reply (.cancel cmd) world.env).1.code ≠ .succeed →
      stops .terminate world (world.answered cfg.lib .clear (.cancel cmd))
  drop : ∀ (world : World σ) (cmd : Option Handle),
    relation world (world.answered cfg.lib .other (.cmdDrop cmd))
  handle : ∀ world : World σ, relation world { world with
    commands := Function.update world.commands id
      ((world.commands id).map fun cmd => { cmd with mCmd := none }) }
  remove : ∀ world : World σ, relation world { world with
    commands := Function.update world.commands id none }

/-- What a relation has to hold of for disconnecting any command to keep it. -/
structure DisconnectStable (cfg : Config σ) (relation : World σ → World σ → Prop)
    (stops : Halt → World σ → World σ → Prop) : Prop extends BaseStable relation stops where
  close : ∀ (world : World σ) (site : Site) (call : CtCall), site ≠ .clear →
    call.isClosing = true → relation world (world.answered cfg.lib site call)
  disconnect : ∀ (world : World σ) (id : CommandId), relation world { world with
    commands := Function.update world.commands id
      ((world.commands id).map fun cmd => { cmd with mCmd := none }) }

/-- What a relation has to hold of for invalidating the registered statement to keep it: its command
is disconnected, it is made invalid, and it is no longer registered. -/
structure InvalidateStable (cfg : Config σ) (relation : World σ → World σ → Prop)
    (stops : Halt → World σ → World σ → Prop) :
    Prop extends DisconnectStable cfg relation stops where
  noted : ∀ (world : World σ) (statement : StatementId),
    relation world (world.record .other (.invalidate statement))
  invalid : ∀ (world : World σ) (statement : StatementId), relation world { world with
    statements := Function.update world.statements statement
      ((world.statements statement).map fun wrap =>
        { wrap with m := { wrap.m with valid := false } }) }
  unregister : ∀ world : World σ, relation world { world with
    connection := { world.connection with stmt := none } }

/-- What a relation has to hold of for closing a connection to keep it. -/
structure CloseStable (cfg : Config σ) (relation : World σ → World σ → Prop)
    (stops : Halt → World σ → World σ → Prop) :
    Prop extends InvalidateStable cfg relation stops where
  reset : ∀ (world : World σ) (connection : Connection), connection.stmt = world.connection.stmt →
    relation world { world with connection := connection }

/-- The calls of `connection::direct_execute`, and the cancel before it. -/
def CtCall.isDirect : CtCall → Bool
  | cancelAll | cmdAlloc _ | command _ _ | send _ | results _ | cancel _ | cmdDrop _ => true
  | _ => false

/-- What a relation has to hold of for commit and rollback to keep it. -/
structure DirectStable (cfg : Config σ) (relation : World σ → World σ → Prop)
    (stops : Halt → World σ → World σ → Prop) : Prop extends BaseStable relation stops where
  call : ∀ (world : World σ) (site : Site) (call : CtCall), site ≠ .clear → call.isDirect = true →
    relation world (world.answered cfg.lib site call)
  alloc : ∀ world : World σ, relation world { world with nextHandle := world.nextHandle + 1 }

section Commands

variable {cfg : Config σ} {id : CommandId} {relation : World σ → World σ → Prop}
  {stops : Halt → World σ → World σ → Prop} [Std.Refl relation] [IsTrans (World σ) relation]

namespace ParamStable

variable (stable : ParamStable cfg id relation stops)
include stable

theorem keeps_setParamsFrom (args : Option (List QoreValue)) (letters : List Char) (index : Nat) :
    Keeps relation stops (Command.setParamsFrom cfg id args letters index) := by
  induction letters generalizing index with
  | nil => exact keeps_pure _
  | cons letter letters inductionHypothesis =>
    have bound : ∀ binding, Keeps relation stops (Command.ctParam cfg id index binding) :=
      fun _ => stable.keeps_getCommand fun world cmd held => by
        rw [wp_bind, wp_ctCallAt]
        exact stable.param _ _ _ _ _ held
    rw [Command.setParamsFrom.eq_def]
    split
    · exact keeps_pure _
    · rename_i same
      cases same
      exact inductionHypothesis _
    · rename_i same
      cases same
      refine keeps_bind keeps_get fun world => ?_
      split
      · exact keeps_bind (bound _) fun _ =>
          keeps_bind (keeps_when _ fun _ => stable.keeps_doException _ _) fun _ =>
            inductionHypothesis _
      · exact keeps_bind (bound _) fun _ => keeps_pure _
      · exact stable.keeps_doException _ _
      · exact keeps_bind (stable.keeps_raiseException _ _) fun _ => keeps_throw _

end ParamStable

namespace SetUpStable

variable (stable : SetUpStable cfg id relation stops)
include stable

omit [Std.Refl relation] [IsTrans (World σ) relation] in
theorem paramStable : ParamStable cfg id relation stops where
  toBaseStable := stable.toBaseStable
  param _ _ _ _ _ held := stable.bind _ held rfl rfl

theorem keeps_bindQuery (query : SybaseQuery) (args : Option (List QoreValue)) :
    Keeps relation stops (Command.bindQuery cfg id query args) := by
  refine keeps_bind (keeps_modify fun world => stable.query world query) fun _ => ?_
  refine keeps_bind ?_ fun _ => keeps_when _ fun _ =>
    stable.paramStable.keeps_setParamsFrom args _ _
  refine keeps_bind (stable.keeps_assert _ _) fun _ =>
    stable.keeps_getCommand fun world cmd held => ?_
  rw [wp_bind, wp_ctCallAt]
  exact keeps_after (stable.bind _ held rfl rfl)
    (keeps_when _ fun _ => stable.keeps_doException _ _)

end SetUpStable

namespace BindStable

variable (stable : BindStable cfg id relation stops)
include stable

omit [Std.Refl relation] [IsTrans (World σ) relation] in
theorem setUpStable : SetUpStable cfg id relation stops where
  toBaseStable := stable.toBaseStable
  bind call _ binding _ := stable.bind _ call binding
  query := stable.query

theorem keeps_bindQuery (query : SybaseQuery) (args : Option (List QoreValue)) :
    Keeps relation stops (Command.bindQuery cfg id query args) :=
  stable.setUpStable.keeps_bindQuery query args

end BindStable

namespace DestroyStable

variable (stable : DestroyStable cfg id relation stops)
include stable

/-- `clear` throws only where its `ct_cancel` failed. -/
theorem wp_clear (world : World σ) :
    wp (Command.clear cfg id) (fun _ after => relation world after)
      (fun _ after => stops .terminate world after) (Halted relation stops world) world := by
  have dropped : ∀ (cmd : Command) (middle : World σ), relation world middle →
      wp (Command.dropHandle cfg id cmd) (fun _ after => relation world after)
        (fun _ after => stops .terminate world after) (Halted relation stops world) middle := by
    intro cmd middle kept
    rw [Command.dropHandle, wp_bind, wp_ctCall, wp_modifyCommand]
    exact trans_of relation kept (trans_of relation (stable.drop middle _) (stable.handle _))
  rw [Command.clear, wp_bind, wp_getCommand]
  refine ⟨fun cmd _ => ?_, fun _ =>
    ⟨world, refl_of relation world, stable.halts world _ (by simp)⟩⟩
  rw [wp_when]
  refine ⟨fun _ => ?_, fun _ => refl_of relation world⟩
  rw [wp_bind, Command.cancelUnfinished, wp_bind, wp_get, wp_when]
  refine ⟨fun _ => ?_, fun _ => dropped cmd world (refl_of relation world)⟩
  rw [wp_bind, wp_ctCallAt, wp_when, wp_throw]
  exact ⟨fun failed => stable.terminated world cmd.mCmd failed,
    fun succeeded => dropped cmd _ (stable.clear world _ (not_not.mp succeeded))⟩

theorem keeps_destroy : Keeps relation stops (Command.destroy cfg id) := by
  intro world
  rw [Command.destroy, wp_bind, wp_tryCatch]
  exact wp_mono (stable.wp_clear world)
    (fun _ after kept => trans_of relation kept (stable.remove after))
    (fun _ after stopped => ⟨world, refl_of relation world, stopped⟩) fun _ _ halted => halted

end DestroyStable

/-- Closing a connection after nothing is registered keeps what its steps keep. -/
theorem BaseStable.keeps_shut (stable : BaseStable relation stops)
    (shuts : ∀ call : CtCall, call.isClosing = true → call.command? = none →
      Keeps relation stops (ctCall cfg call))
    (resets : ∀ (world : World σ) (connection : Connection),
      connection.stmt = world.connection.stmt → relation world
        { world with connection := connection }) :
    Keeps relation stops (do
      let _ ← ctCall cfg (.close true)
      modifyConnection fun connection => { connection with connected := false }
      discardMessages
      when (← wasInTransaction cfg) (raiseException "TDS-TRANSACTION-ERROR"
        ("connection to server lost while in a transaction; " ++ "transaction has been lost"))
      let _ ← ctCall cfg (.conDrop (← get).connection.mConnection)
      modifyConnection fun connection => { connection with mConnection := none }) := by
  refine keeps_bind (shuts _ rfl rfl) fun _ => ?_
  refine keeps_bind (keeps_modify fun world => resets world _ rfl) fun _ => ?_
  refine keeps_bind (keeps_modify stable.discard) fun _ => ?_
  refine keeps_bind (keeps_bind keeps_get fun _ => keeps_pure _) fun inTransaction => ?_
  refine keeps_bind (keeps_when _ fun _ => stable.keeps_raiseException _ _) fun _ => ?_
  refine keeps_bind keeps_get fun world => ?_
  exact keeps_bind (shuts _ rfl rfl) fun _ => keeps_modify fun world => resets world _ rfl

/-- Closing a connection after its command is disconnected keeps what its steps keep. -/
theorem BaseStable.keeps_disconnected (stable : BaseStable relation stops)
    (invalidates : Keeps relation stops (invalidateStatement cfg))
    (shuts : ∀ call : CtCall, call.isClosing = true → call.command? = none →
      Keeps relation stops (ctCall cfg call))
    (resets : ∀ (world : World σ) (connection : Connection),
      connection.stmt = world.connection.stmt → relation world
        { world with connection := connection }) :
    Keeps relation stops (do
      invalidateStatement cfg
      let _ ← ctCall cfg (.close true)
      modifyConnection fun connection => { connection with connected := false }
      discardMessages
      when (← wasInTransaction cfg) (raiseException "TDS-TRANSACTION-ERROR"
        ("connection to server lost while in a transaction; " ++ "transaction has been lost"))
      let _ ← ctCall cfg (.conDrop (← get).connection.mConnection)
      modifyConnection fun connection => { connection with mConnection := none }) :=
  keeps_bind invalidates fun _ => stable.keeps_shut shuts resets

/-- Closing a connection keeps what its steps keep. -/
theorem BaseStable.keeps_closing (stable : BaseStable relation stops) {cmd : CommandId}
    (disconnects : Keeps relation stops (Command.cancelDisconnect cfg cmd))
    (invalidates : Keeps relation stops (invalidateStatement cfg))
    (shuts : ∀ call : CtCall, call.isClosing = true → call.command? = none →
      Keeps relation stops (ctCall cfg call))
    (resets : ∀ (world : World σ) (connection : Connection),
      connection.stmt = world.connection.stmt → relation world
        { world with connection := connection }) :
    Keeps relation stops (closeConnection cfg cmd) :=
  keeps_bind disconnects fun _ => stable.keeps_disconnected invalidates shuts resets

namespace InvalidatingStable

variable (stable : InvalidatingStable cfg relation stops)
include stable

theorem keeps_invalidate (statement : StatementId) :
    Keeps relation stops (invalidate cfg statement) := by
  refine keeps_bind (keeps_modify fun world => stable.noted world statement) fun _ => ?_
  refine keeps_bind (stable.keeps_getModuleWrap statement) fun wrap => ?_
  refine keeps_bind (stable.keeps_assert _ _) fun _ => ?_
  split
  · exact keeps_throw _
  · exact keeps_bind (stable.disconnects _) fun _ =>
      keeps_modify fun world => stable.invalid world statement

theorem keeps_invalidateStatement : Keeps relation stops (invalidateStatement cfg) := by
  refine keeps_bind keeps_get fun world => ?_
  split
  · exact keeps_pure _
  · exact keeps_bind (stable.keeps_invalidate _) fun _ => keeps_modify stable.unregister

/-- Registering a statement keeps what its last step keeps. -/
theorem keeps_registerStatement (statement : StatementId)
    (register : ∀ world, relation world { world with
      connection := { world.connection with stmt := some statement } }) :
    Keeps relation stops (registerStatement cfg statement) := by
  have registered : Keeps relation stops (modifyConnection fun connection =>
    { connection with stmt := some statement } : Driver σ Unit) := keeps_modify register
  refine keeps_bind keeps_get fun world => ?_
  split
  · exact keeps_bind (keeps_pure ()) fun _ => registered
  · exact keeps_bind (stable.keeps_invalidate _) fun _ => registered

end InvalidatingStable

/-- Disconnecting a command keeps what its two calls and the loss of its handle keep. -/
theorem BaseStable.keeps_cancelDisconnect (stable : BaseStable relation stops)
    (calls : ∀ (site : Site) (call : CtCall), site ≠ .clear → call.isClosing = true →
      call.command?.isSome = true → Keeps relation stops (ctCallAt cfg site call))
    (disconnect : ∀ (world : World σ) (id : CommandId), relation world { world with
      commands := Function.update world.commands id
        ((world.commands id).map fun cmd => { cmd with mCmd := none }) })
    (id : CommandId) : Keeps relation stops (Command.cancelDisconnect cfg id) := by
  have canceled : Keeps relation stops (Command.cancelIntern cfg .cancelDisconnect id) :=
    stable.keeps_getCommand_then fun _ => keeps_bind (stable.keeps_assert _ _) fun _ =>
      keeps_bind (calls _ _ (by simp) rfl rfl) fun _ => keeps_pure _
  refine stable.keeps_getCommand_then fun cmd => ?_
  refine keeps_bind (stable.keeps_assert _ _) fun _ => keeps_bind canceled fun _ => ?_
  exact keeps_bind (calls _ _ (by simp) rfl rfl) fun _ => keeps_modify fun world =>
    disconnect world id

namespace DisconnectStable

variable (stable : DisconnectStable cfg relation stops)
include stable

theorem keeps_cancelDisconnect (id : CommandId) :
    Keeps relation stops (Command.cancelDisconnect cfg id) :=
  stable.toBaseStable.keeps_cancelDisconnect
    (fun site call notClear closing _ world => stable.close world site call notClear closing)
    stable.disconnect id

/-- Closing a connection keeps what invalidating the registered statement keeps. -/
theorem keeps_closing (invalidates : Keeps relation stops (invalidateStatement cfg))
    (resets : ∀ (world : World σ) (connection : Connection),
      connection.stmt = world.connection.stmt → relation world
        { world with connection := connection })
    (cmd : CommandId) : Keeps relation stops (closeConnection cfg cmd) :=
  stable.toBaseStable.keeps_closing (stable.keeps_cancelDisconnect cmd) invalidates
    (fun call closing _ world => stable.close world _ call (by simp) closing) resets

end DisconnectStable

namespace InvalidateStable

variable (stable : InvalidateStable cfg relation stops)
include stable

theorem invalidatingStable : InvalidatingStable cfg relation stops where
  toBaseStable := stable.toBaseStable
  disconnects := stable.keeps_cancelDisconnect
  noted := stable.noted
  invalid := stable.invalid
  unregister := stable.unregister

theorem keeps_invalidate (statement : StatementId) :
    Keeps relation stops (invalidate cfg statement) :=
  stable.invalidatingStable.keeps_invalidate statement

theorem keeps_invalidateStatement : Keeps relation stops (invalidateStatement cfg) :=
  stable.invalidatingStable.keeps_invalidateStatement

end InvalidateStable

namespace CloseStable

variable (stable : CloseStable cfg relation stops)
include stable

omit [Std.Refl relation] [IsTrans (World σ) relation] in
theorem keeps_modifyConnection {change : Connection → Connection}
    (kept : ∀ connection, (change connection).stmt = connection.stmt) :
    Keeps relation stops (modifyConnection change : Driver σ Unit) :=
  keeps_modify fun world => stable.reset world _ (kept _)

theorem keeps_closeConnection (cmd : CommandId) :
    Keeps relation stops (closeConnection cfg cmd) :=
  stable.keeps_closing stable.keeps_invalidateStatement stable.reset cmd

end CloseStable

namespace BaseStable

variable (stable : BaseStable relation stops)
include stable

theorem keeps_doCheckException (check : Bool) (err fmt : String) :
    Keeps relation stops (doCheckException check err fmt : Driver σ Unit) := by
  refine keeps_bind keeps_get fun world => keeps_bind (keeps_modify stable.discard) fun _ => ?_
  split
  · exact keeps_pure _
  · exact keeps_throw _

/-- The part of `direct_execute` in which its canceller is armed keeps what its calls keep. -/
theorem keeps_directExecuteSend {handle : Handle}
    (calls : ∀ (site : Site) (call : CtCall), site ≠ .clear → call.isDirect = true →
      call.command? = some (some handle) → (∀ dropped, call ≠ .cmdDrop dropped) →
        Keeps relation stops (ctCallAt cfg site call))
    (sqlText : Text) : Keeps relation stops (directExecuteSend cfg handle sqlText) := by
  refine keeps_bind (calls _ _ (by simp) rfl rfl (by simp)) fun reply => ?_
  refine keeps_bind (keeps_when _ fun _ => stable.keeps_doException _ _) fun _ => ?_
  refine keeps_bind (calls _ _ (by simp) rfl rfl (by simp)) fun reply => ?_
  refine keeps_bind (keeps_when _ fun _ => stable.keeps_doException _ _) fun _ => ?_
  refine keeps_bind (calls _ _ (by simp) rfl rfl (by simp)) fun reply => ?_
  refine keeps_bind (keeps_when _ fun _ => stable.keeps_doException _ _) fun _ => ?_
  refine keeps_bind (keeps_when _ fun _ => stable.keeps_doCheckException _ _ _) fun _ => ?_
  refine keeps_iterate (fun world => stable.halts world _ (by simp)) (fun _ => ?_) _ _
  refine keeps_bind (calls _ _ (by simp) rfl rfl (by simp)) fun reply => ?_
  split
  · exact keeps_pure _
  · exact keeps_pure _

end BaseStable

namespace DirectStable

variable (stable : DirectStable cfg relation stops)
include stable

omit [Std.Refl relation] [IsTrans (World σ) relation] in
theorem keeps_ctCallAt {site : Site} (notClear : site ≠ .clear) {call : CtCall}
    (direct : call.isDirect = true) : Keeps relation stops (ctCallAt cfg site call) := fun world =>
  stable.call world site call notClear direct

theorem keeps_directExecuteSend (handle : Handle) (sqlText : Text) :
    Keeps relation stops (directExecuteSend cfg handle sqlText) :=
  stable.toBaseStable.keeps_directExecuteSend
    (fun _ _ notClear direct _ _ => stable.keeps_ctCallAt notClear direct) sqlText

theorem keeps_directExecute (sqlText : Text) :
    Keeps relation stops (directExecute cfg sqlText) := by
  refine keeps_bind (stable.keeps_assert _ _) fun _ world => ?_
  rw [wp_bind, wp_get, wp_bind, wp_ctCallAt, wp_bind, wp_modify]
  refine keeps_after (trans_of relation
    (stable.call world .directExecute (.cmdAlloc world.nextHandle) (by simp) rfl)
    (stable.alloc _)) ?_
  refine keeps_bind (keeps_when _ fun _ => stable.keeps_doException _ _) fun _ => ?_
  refine keeps_ensure (keeps_bind (keeps_onThrow (stable.keeps_directExecuteSend _ _) ?_) fun _ =>
    stable.keeps_purgeMessages) ?_
  · exact keeps_bind (stable.keeps_ctCallAt (by simp) rfl) fun _ => keeps_pure _
  · exact keeps_bind (stable.keeps_ctCallAt (by simp) rfl) fun _ => keeps_pure _

theorem keeps_commit : Keeps relation stops (commit cfg) :=
  keeps_bind (stable.keeps_ctCallAt (by simp) rfl) fun _ => stable.keeps_directExecute _

theorem keeps_rollback : Keeps relation stops (rollback cfg) :=
  keeps_bind (stable.keeps_ctCallAt (by simp) rfl) fun _ => stable.keeps_directExecute _

end DirectStable

end Commands

/-! ### Requests -/

/-- The calls of ct-lib that neither send a command nor ask whether the connection is up. -/
def CtCall.isQuiet : CtCall → Bool
  | send _ | conStatus => false
  | _ => true

/-- The events that are neither a call nor about a lost connection. -/
def Event.isQuiet : Event → Bool
  | value _ _ | invalidate _ => true
  | _ => false

/-- What a relation has to hold of for every method to keep it that does not send. -/
structure QuietStable (cfg : Config σ) (relation : World σ → World σ → Prop)
    (stops : Halt → World σ → World σ → Prop) : Prop extends BaseStable relation stops where
  call : ∀ (world : World σ) (site : Site) (call : CtCall), call.isQuiet = true →
    (site = .clear → (cfg.lib.reply call world.env).1.code = .succeed) →
      relation world (world.answered cfg.lib site call)
  record : ∀ (world : World σ) (event : Event), event.isQuiet = true →
    relation world (world.record .other event)
  commands : ∀ (world : World σ) (commands : CommandId → Option Command) (nextCommand : CommandId)
    (nextHandle : Handle), world.nextCommand ≤ nextCommand → world.nextHandle ≤ nextHandle →
    (∀ id, nextCommand ≤ id → world.commands id = none → commands id = none) →
      relation world { world with
        commands := commands, nextCommand := nextCommand, nextHandle := nextHandle }
  connection : ∀ (world : World σ) (connection : Connection) (nextConnection : ConnectionHandle)
    (connectionAborted : Bool),
    (connection.stmt = world.connection.stmt ∨ connection.stmt = none) →
    (world.connectionAborted = true → connectionAborted = true) →
      relation world { world with
        connection := connection
        nextConnection := nextConnection
        connectionAborted := connectionAborted }
  statements : ∀ (world : World σ) (statements : StatementId → Option ModuleWrap),
    (∀ statement, (statements statement).isSome = (world.statements statement).isSome) →
      relation world { world with statements := statements }
  terminated : ∀ (world : World σ) (cmd : Option Handle),
    (cfg.lib.reply (.cancel cmd) world.env).1.code ≠ .succeed →
      stops .terminate world (world.answered cfg.lib .clear (.cancel cmd))

/-- What a relation has to hold of for every method to keep it. -/
structure Stable (cfg : Config σ) (relation : World σ → World σ → Prop)
    (stops : Halt → World σ → World σ → Prop) : Prop extends QuietStable cfg relation stops where
  loudCall : ∀ (world : World σ) (site : Site) (call : CtCall), call.isQuiet = false →
    relation world (world.answered cfg.lib site call)
  loudRecord : ∀ (world : World σ) (event : Event), event.isQuiet = false →
    relation world (world.record .other event)
  nested : ∀ {α : Type} {program : Driver σ α}, Keeps relation stops program →
    Keeps relation stops (nested program)

/-- What a relation has to hold of for reading the results of any command to keep it. -/
structure ReadStable (cfg : Config σ) (relation : World σ → World σ → Prop)
    (stops : Halt → World σ → World σ → Prop) : Prop extends BaseStable relation stops where
  reading : ∀ id, ReadingStable cfg id relation stops

/-- What a relation has to hold of for executing a query to keep it, where setting up a command
does. -/
structure PreparedStable (cfg : Config σ) (reconnect : Reconnect σ)
    (relation : World σ → World σ → Prop) (stops : Halt → World σ → World σ → Prop) : Prop
    extends ReadStable cfg relation stops where
  reconnects : ∀ cmd tryReconnect, Keeps relation stops (reconnect cmd tryReconnect)
  setups : ∀ cmdText args raw, Keeps relation stops (setupCommand cfg reconnect cmdText args raw)
  destroys : ∀ id, Keeps relation stops (Command.destroy cfg id)
  invalidates : Keeps relation stops (invalidateStatement cfg)

/-- What a relation has to hold of for executing a query to keep it, where the functions of a
command do. -/
structure ExecuteStable (cfg : Config σ) (relation : World σ → World σ → Prop)
    (stops : Halt → World σ → World σ → Prop) : Prop extends ReadStable cfg relation stops where
  creates : Keeps relation stops (Command.create cfg)
  binds : ∀ id query args, Keeps relation stops (Command.bindQuery cfg id query args)
  sends : ∀ id, Keeps relation stops (Command.send cfg id)
  pings : Keeps relation stops (ping cfg)
  destroys : ∀ id, Keeps relation stops (Command.destroy cfg id)
  invalidates : Keeps relation stops (invalidateStatement cfg)

/-- What a relation has to hold of for a reconnect to keep it, beside the queries that are
executed. -/
structure ReopenStable (cfg : Config σ) (relation : World σ → World σ → Prop)
    (stops : Halt → World σ → World σ → Prop) : Prop extends SessionStable cfg relation stops where
  closes : ∀ cmd, Keeps relation stops (closeConnection cfg cmd)
  lost : ∀ (world : World σ) (tryReconnect : Bool),
    relation world (world.record .other (.lost tryReconnect))
  reconnected : ∀ (world : World σ) (result : Int),
    relation world (world.record .other (.reconnected result))
  aborts : ∀ world : World σ, relation world { world with connectionAborted := true }
  nested : ∀ {α : Type} {program : Driver σ α}, Keeps relation stops program →
    Keeps relation stops (nested program)

/-- What a relation has to hold of for the methods of a statement to keep it that read its
results. -/
structure StatementStable (cfg : Config σ) (relation : World σ → World σ → Prop)
    (stops : Halt → World σ → World σ → Prop) : Prop extends ReadStable cfg relation stops where
  wraps : ∀ (world : World σ) (statement : StatementId) (change : ModuleWrap → ModuleWrap),
    (∀ wrap, (change wrap).m.valid = wrap.m.valid ∧ (change wrap).m.context = wrap.m.context) →
      relation world { world with
        statements := Function.update world.statements statement
          ((world.statements statement).map change) }

/-- What a relation has to hold of for reading the results of commands to keep it, with each kind of
change looked at apart. -/
structure CommandStable (cfg : Config σ) (relation : World σ → World σ → Prop)
    (stops : Halt → World σ → World σ → Prop) : Prop extends BaseStable relation stops where
  reading : ∀ id, ReadingStable cfg id relation stops
  binding : ∀ id, BindStable cfg id relation stops
  destroying : ∀ id, DestroyStable cfg id relation stops
  creates : Keeps relation stops (Command.create cfg)

/-- What a relation has to hold of for executing a query to keep it, where invalidating the
registered statement does. -/
structure SendStable (cfg : Config σ) (relation : World σ → World σ → Prop)
    (stops : Halt → World σ → World σ → Prop) : Prop extends CommandStable cfg relation stops where
  asks : ∀ (world : World σ) (call : CtCall), call.isQuiet = false →
    relation world (world.answered cfg.lib .other call)
  invalidates : Keeps relation stops (invalidateStatement cfg)

/-- What a relation has to hold of for a request to keep it that does not send. -/
structure FrameStable (cfg : Config σ) (relation : World σ → World σ → Prop)
    (stops : Halt → World σ → World σ → Prop) : Prop
    extends SessionStable cfg relation stops, CommandStable cfg relation stops where
  holds : ∀ (world : World σ) (statement : StatementId) (context : Option CommandId),
    relation world { world with
      statements := Function.update world.statements statement
        ((world.statements statement).map fun wrap =>
          { wrap with m := { wrap.m with context := context } }) }

/-- What a relation has to hold of for a request to keep it. -/
structure RequestStable (cfg : Config σ) (relation : World σ → World σ → Prop)
    (stops : Halt → World σ → World σ → Prop) : Prop
    extends FrameStable cfg relation stops, SendStable cfg relation stops where
  closes : ∀ cmd, Keeps relation stops (closeConnection cfg cmd)
  notes : ∀ (world : World σ) (event : Event), event.isQuiet = false →
    relation world (world.record .other event)
  aborts : ∀ world : World σ, relation world { world with connectionAborted := true }
  nested : ∀ {α : Type} {program : Driver σ α}, Keeps relation stops program →
    Keeps relation stops (nested program)

/-- What a relation has to hold of for every method of a statement to keep it. -/
structure MethodStable (cfg : Config σ) (relation : World σ → World σ → Prop)
    (stops : Halt → World σ → World σ → Prop) : Prop extends RequestStable cfg relation stops where
  wraps : ∀ (world : World σ) (statement : StatementId) (change : ModuleWrap → ModuleWrap),
    (∀ wrap, (change wrap).m.valid = wrap.m.valid) → relation world { world with
      statements := Function.update world.statements statement
        ((world.statements statement).map change) }

section Parts

variable {cfg : Config σ} {relation : World σ → World σ → Prop}
  {stops : Halt → World σ → World σ → Prop} [Std.Refl relation] [IsTrans (World σ) relation]
  {reconnect : Reconnect σ}

/-- Sending a command keeps what `ct_send`, the question whether the connection is up, and a
reconnect keep. -/
theorem keeps_sendOrReconnect {id : CommandId} (sends : Keeps relation stops (Command.send cfg id))
    (pings : Keeps relation stops (ping cfg))
    (reconnects : ∀ cmd tryReconnect, Keeps relation stops (reconnect cmd tryReconnect)) :
    Keeps relation stops (sendOrReconnect cfg reconnect id) := by
  refine keeps_tryCatch (keeps_bind sends fun _ => keeps_pure _) fun error => ?_
  refine keeps_bind pings fun up => ?_
  split
  · exact keeps_throw _
  · refine keeps_bind (reconnects _ _) fun result => ?_
    split
    · exact keeps_throw _
    · exact keeps_pure _

namespace ReadStable

variable (stable : ReadStable cfg relation stops)
include stable

theorem keeps_readNextResult
    (reconnects : ∀ cmd tryReconnect, Keeps relation stops (reconnect cmd tryReconnect))
    (cmd : CommandId) : Keeps relation stops (readNextResult cfg reconnect cmd) := by
  refine keeps_bind keeps_isException fun raised => ?_
  split
  · exact keeps_pure _
  · refine keeps_bind (stable.reading cmd).keeps_readNextResult fun ⟨rc, disconnect⟩ => ?_
    cases disconnect with
    | true => exact keeps_bind (reconnects _ _) fun _ => keeps_pure _
    | false => exact keeps_pure _

theorem keeps_cancelContext (statement : StatementId) :
    Keeps relation stops (Statement.cancelContext cfg statement) := by
  refine keeps_bind (stable.keeps_getModuleWrap statement) fun wrap => ?_
  split
  · exact keeps_bind (stable.reading _).keeps_cancel fun _ => keeps_pure _
  · exact keeps_pure _

section Reading

variable (reads : ∀ cmd, Keeps relation stops (Connection.readNextResult cfg reconnect cmd))
include reads

theorem keeps_readOutput (cmd : CommandId) (list cols singleRow : Bool) :
    Keeps relation stops (readOutput cfg reconnect cmd list cols singleRow) := by
  refine keeps_iterate (fun world => stable.halts world _ (by simp)) (fun rf => ?_) _ _
  refine keeps_bind (reads cmd) fun rt => ?_
  refine keeps_bind keeps_isException fun raised => ?_
  split
  · exact keeps_pure _
  · exact (stable.reading cmd).keeps_readOutputResult list cols singleRow rf rt

theorem keeps_readOutputOption (cmd : Option CommandId) (list cols singleRow : Bool) :
    Keeps relation stops (readOutputOption cfg reconnect cmd list cols singleRow) := by
  rw [readOutputOption.eq_def]
  split
  · exact stable.keeps_readOutput reads _ _ _ _
  · refine keeps_bind keeps_isException fun raised => ?_
    split
    · exact keeps_pure _
    · exact stable.keeps_undefined

theorem keeps_readNextResultOf (context : Option CommandId) :
    Keeps relation stops (Statement.readNextResult cfg reconnect context) := by
  rw [Statement.readNextResult.eq_def]
  split
  · exact reads _
  · refine keeps_bind keeps_isException fun raised => ?_
    split
    · exact keeps_pure _
    · exact stable.keeps_undefined

/-- What `execReadOutput` does once the command is set up. -/
theorem keeps_readOutputAndDestroy
    (destroys : ∀ cmd, Keeps relation stops (Command.destroyOption cfg cmd))
    (cmd : Option CommandId) (list cols singleRow : Bool) :
    Keeps relation stops (ensure (do
        let result ← readOutputOption cfg reconnect cmd list cols singleRow
        if ← isException then pure .nothing else pure result)
      (Command.destroyOption cfg cmd)) := by
  refine keeps_ensure (keeps_bind (stable.keeps_readOutputOption reads _ _ _ _) fun result =>
    keeps_bind keeps_isException fun raised => ?_) (destroys cmd)
  split
  · exact keeps_pure _
  · exact keeps_pure _

end Reading

end ReadStable

namespace PreparedStable

variable (stable : PreparedStable cfg reconnect relation stops)
include stable

omit [IsTrans (World σ) relation] in
theorem keeps_destroyOption : ∀ cmd, Keeps relation stops (Command.destroyOption cfg cmd)
  | some cmd => stable.destroys cmd
  | none => keeps_pure ()

theorem keeps_execReadOutput (cmdText : Text) (args : Option (List QoreValue))
    (needList doBinding cols singleRow : Bool) : Keeps relation stops
      (execReadOutput cfg reconnect cmdText args needList doBinding cols singleRow) :=
  keeps_bind stable.invalidates fun _ => keeps_bind (stable.setups _ _ _) fun cmd =>
    stable.keeps_readOutputAndDestroy (stable.keeps_readNextResult stable.reconnects)
      stable.keeps_destroyOption cmd _ _ _

section Executing

variable (holds : ∀ (world : World σ) (statement : StatementId) (context : Option CommandId),
    relation world { world with
      statements := Function.update world.statements statement
        ((world.statements statement).map fun wrap =>
          { wrap with m := { wrap.m with context := context } }) })
include holds

theorem keeps_resetContext (statement : StatementId) (context : Option CommandId) :
    Keeps relation stops (Statement.resetContext cfg statement context) :=
  keeps_bind (stable.keeps_getModuleWrap statement) fun _ =>
    keeps_bind (keeps_modify fun world => holds world statement context) fun _ =>
      stable.keeps_destroyOption _

/-- What `Statement::exec` does once the command is set up. -/
theorem keeps_execSetUp (statement : StatementId) (cmd : Option CommandId) :
    Keeps relation stops (do
      Statement.resetContext cfg statement cmd
      if ← isException then pure (-1 : Int)
      else do
        let _ ← Statement.readNextResult cfg reconnect cmd
        if ← isException then pure (-1) else pure 0) := by
  refine keeps_bind (stable.keeps_resetContext holds _ _) fun _ => ?_
  refine keeps_bind keeps_isException fun raised => ?_
  split
  · exact keeps_pure _
  · have reads := stable.keeps_readNextResult stable.reconnects
    refine keeps_bind (stable.keeps_readNextResultOf reads cmd) fun _ => ?_
    refine keeps_bind keeps_isException fun raised => ?_
    split
    · exact keeps_pure _
    · exact keeps_pure _

theorem keeps_exec (statement : StatementId) (query : Option Text) (args : Option (List QoreValue))
    (raw : Bool) : Keeps relation stops
    (Statement.exec cfg reconnect statement query args raw) := by
  refine keeps_bind (stable.keeps_checkValid statement) fun invalid => ?_
  split
  · exact keeps_pure _
  · refine keeps_bind (stable.keeps_cancelContext statement) fun _ => ?_
    refine keeps_bind stable.keeps_checkOpen fun _ => ?_
    split
    · exact stable.keeps_undefined
    · exact keeps_bind (stable.setups _ _ _) fun cmd => stable.keeps_execSetUp holds statement cmd

end Executing

end PreparedStable

namespace ExecuteStable

variable (stable : ExecuteStable cfg relation stops)
include stable

section Reconnecting

variable (reconnects : ∀ cmd tryReconnect, Keeps relation stops (reconnect cmd tryReconnect))
include reconnects

theorem keeps_setupCommandOnce (cmdText : Text) (args : Option (List QoreValue)) (raw : Bool) :
    Keeps relation stops (setupCommandOnce cfg reconnect cmdText args raw) := by
  refine keeps_bind (stable.keeps_initQuery _ _ _) fun query => ?_
  split
  · exact keeps_pure _
  · refine keeps_bind stable.creates fun cmd => ?_
    refine keeps_bind (keeps_onThrow (keeps_bind (stable.binds _ _ _) fun _ =>
      keeps_sendOrReconnect (stable.sends _) stable.pings reconnects) (stable.destroys _))
        fun sent => ?_
    split
    · exact keeps_pure _
    · exact keeps_bind (stable.destroys _) fun _ => keeps_pure _

theorem keeps_setupCommand (cmdText : Text) (args : Option (List QoreValue)) (raw : Bool) :
    Keeps relation stops (setupCommand cfg reconnect cmdText args raw) :=
  keeps_iterate (fun world => stable.halts world _ (by simp))
    (fun _ => stable.keeps_setupCommandOnce reconnects cmdText args raw) _ _

theorem preparedStable : PreparedStable cfg reconnect relation stops where
  toReadStable := stable.toReadStable
  reconnects := reconnects
  setups := stable.keeps_setupCommand reconnects
  destroys := stable.destroys
  invalidates := stable.invalidates

theorem keeps_execReadOutput (cmdText : Text) (args : Option (List QoreValue))
    (needList doBinding cols singleRow : Bool) : Keeps relation stops
      (execReadOutput cfg reconnect cmdText args needList doBinding cols singleRow) :=
  (stable.preparedStable reconnects).keeps_execReadOutput cmdText args needList
    doBinding cols singleRow

end Reconnecting

omit [IsTrans (World σ) relation] in
theorem keeps_destroyOption : ∀ cmd, Keeps relation stops (Command.destroyOption cfg cmd)
  | some cmd => stable.destroys cmd
  | none => keeps_pure ()

theorem keeps_exec
    (holds : ∀ (world : World σ) (statement : StatementId) (context : Option CommandId),
      relation world { world with
        statements := Function.update world.statements statement
          ((world.statements statement).map fun wrap =>
            { wrap with m := { wrap.m with context := context } }) })
    (reconnects : ∀ cmd tryReconnect, Keeps relation stops (reconnect cmd tryReconnect))
    (statement : StatementId) (query : Option Text) (args : Option (List QoreValue)) (raw : Bool) :
    Keeps relation stops (Statement.exec cfg reconnect statement query args raw) :=
  (stable.preparedStable reconnects).keeps_exec holds statement query args raw

end ExecuteStable

namespace ReopenStable

variable (stable : ReopenStable cfg relation stops)
include stable

theorem keeps_reopenConnection (clear : ∀ world, relation world { world with xsink := [] })
    (requests : ∀ query args singleRow, Keeps relation stops
      (execReadOutput cfg reconnect query args true true false singleRow))
    (tryReconnect : Bool) : Keeps relation stops (reopenConnection cfg reconnect tryReconnect) := by
  have encoding := stable.toSessionStable.keeps_setEncoding clear requests
  refine keeps_bind (stable.nested (stable.toSessionStable.keeps_init encoding)) fun failed => ?_
  split
  · exact keeps_bind (keeps_modify stable.aborts) fun _ => keeps_pure _
  · refine keeps_bind (keeps_bind keeps_get fun _ => keeps_pure _) fun inTransaction => ?_
    split
    · exact keeps_pure _
    · exact keeps_bind (keeps_modify clear) fun _ => keeps_pure _

/-- Reconnecting keeps what opening the connection again keeps. -/
theorem keeps_closeAndReconnect
    (reopens : ∀ {reconnect : Reconnect σ} (tryReconnect : Bool),
      (∀ cmd tryReconnect, Keeps relation stops (reconnect cmd tryReconnect)) →
        Keeps relation stops (reopenConnection cfg reconnect tryReconnect))
    (bound : Nat) (cmd : CommandId) (tryReconnect : Bool) :
    Keeps relation stops (closeAndReconnect cfg bound cmd tryReconnect) := by
  induction bound generalizing cmd tryReconnect with
  | zero => exact keeps_halt fun world => stable.halts world _ (by simp)
  | succ bound inductionHypothesis =>
    refine keeps_bind (keeps_modify fun world => stable.lost world _) fun _ => ?_
    refine keeps_bind (stable.closes cmd) fun _ => ?_
    refine keeps_bind (reopens tryReconnect inductionHypothesis) fun result => ?_
    exact keeps_bind (keeps_modify fun world => stable.reconnected world _) fun _ => keeps_pure _

end ReopenStable

namespace StatementStable

variable (stable : StatementStable cfg relation stops)
include stable

omit [Std.Refl relation] [IsTrans (World σ) relation] in
theorem keeps_modifyModuleWrap (statement : StatementId) {change : ModuleWrap → ModuleWrap}
    (kept : ∀ wrap, (change wrap).m.valid = wrap.m.valid ∧
      (change wrap).m.context = wrap.m.context) :
    Keeps relation stops (modifyModuleWrap statement change : Driver σ Unit) :=
  keeps_modify fun world => stable.wraps world statement change kept

theorem keeps_getContext (statement : StatementId) :
    Keeps relation stops (Statement.getContext statement : Driver σ CommandId) := by
  refine keeps_bind (stable.keeps_getModuleWrap statement) fun wrap => ?_
  split
  · exact keeps_pure _
  · exact keeps_throw _

theorem keeps_fetchRow (statement : StatementId) :
    Keeps relation stops (Statement.fetchRow statement : Driver σ (Option Hash)) :=
  keeps_bind (stable.keeps_getModuleWrap statement) fun _ =>
    keeps_bind (stable.keeps_modifyModuleWrap _ fun _ => ⟨rfl, rfl⟩) fun _ => keeps_pure _

theorem keeps_fetchAhead (statement : StatementId) :
    Keeps relation stops (Statement.fetchAhead cfg statement) := by
  refine keeps_bind (stable.keeps_getModuleWrap statement) fun wrap => keeps_when _ fun _ => ?_
  refine keeps_bind (stable.keeps_getContext statement) fun cmd => ?_
  exact keeps_bind ((stable.reading cmd).keeps_fetchRow none) fun _ =>
    stable.keeps_modifyModuleWrap _ fun _ => ⟨rfl, rfl⟩

theorem keeps_fetchColumns (statement : StatementId) (rows : Int) :
    Keeps relation stops (Statement.fetchColumns cfg statement rows) := by
  refine keeps_bind (stable.keeps_checkValid statement) fun invalid => ?_
  split
  · exact keeps_pure _
  · exact keeps_bind (stable.keeps_getContext statement) fun cmd =>
      (stable.reading cmd).keeps_readCols none rows false

theorem keeps_getOutput (statement : StatementId) :
    Keeps relation stops (Statement.getOutput cfg statement) := by
  refine keeps_bind (stable.keeps_checkValid statement) fun invalid => ?_
  split
  · exact keeps_pure _
  · refine keeps_bind (stable.keeps_getContext statement) fun cmd => ?_
    exact keeps_bind (stable.keeps_getModuleWrap statement) fun wrap =>
      (stable.reading cmd).keeps_readCols _ _ _

theorem keeps_affectedRows (statement : StatementId) :
    Keeps relation stops (Statement.affectedRows statement : Driver σ Int) := by
  refine keeps_bind (stable.keeps_checkValid statement) fun invalid => ?_
  split
  · exact keeps_pure _
  · exact keeps_bind (stable.keeps_getContext statement) fun cmd =>
      stable.keeps_getCommand_then fun _ => keeps_pure _

theorem keeps_bindPlaceholders (statement : StatementId) (l : List QoreValue) :
    Keeps relation stops (Statement.bindPlaceholders statement l : Driver σ Int) := by
  refine keeps_bind (stable.keeps_checkValid statement) fun invalid => ?_
  split
  · exact keeps_pure _
  · split
    · exact keeps_bind (stable.keeps_modifyModuleWrap _ fun _ => ⟨rfl, rfl⟩) fun _ => keeps_pure _
    · exact stable.keeps_undefined

section Reading

variable (reads : ∀ cmd, Keeps relation stops (Connection.readNextResult cfg reconnect cmd))
include reads

theorem keeps_next (statement : StatementId) :
    Keeps relation stops (Statement.next cfg reconnect statement) := by
  refine keeps_bind (stable.keeps_checkValid statement) fun invalid => ?_
  split
  · exact keeps_pure _
  · refine keeps_bind stable.keeps_checkOpen fun _ => ?_
    refine keeps_bind (stable.keeps_getModuleWrap statement) fun wrap => ?_
    refine keeps_bind (stable.keeps_readNextResultOf reads _) fun res => ?_
    refine keeps_bind keeps_isException fun raised => ?_
    split
    · exact keeps_pure _
    · exact keeps_bind (keeps_when _ fun _ => stable.keeps_fetchAhead statement) fun _ =>
        keeps_bind (stable.keeps_getModuleWrap statement) fun _ => keeps_pure _

end Reading

section Fetching

variable (nexts : ∀ statement, Keeps relation stops (Statement.next cfg reconnect statement))
include nexts

theorem keeps_fetchRowsOnce (statement : StatementId) (rows : Int) (loop : Int × List Hash) :
    Keeps relation stops (Statement.fetchRowsOnce cfg reconnect statement rows loop) := by
  obtain ⟨left, reslist⟩ := loop
  rw [Statement.fetchRowsOnce]
  split
  · exact keeps_pure _
  · refine keeps_bind keeps_isException fun raised => ?_
    split
    · exact keeps_pure _
    · refine keeps_bind (stable.keeps_fetchRow statement) fun h => ?_
      refine keeps_bind (nexts statement) fun more => ?_
      split
      · exact keeps_pure _
      · exact keeps_pure _

theorem keeps_fetchRows (statement : StatementId) (rows : Int) :
    Keeps relation stops (Statement.fetchRows cfg reconnect statement rows) := by
  refine keeps_bind (stable.keeps_checkValid statement) fun invalid => ?_
  split
  · exact keeps_pure _
  · exact keeps_iterate (fun world => stable.halts world _ (by simp))
      (stable.keeps_fetchRowsOnce nexts statement rows) _ _

end Fetching

end StatementStable

end Parts

namespace CommandStable

variable {cfg : Config σ} {relation : World σ → World σ → Prop}
  {stops : Halt → World σ → World σ → Prop} [Std.Refl relation] [IsTrans (World σ) relation]
  (stable : CommandStable cfg relation stops)
include stable

omit [Std.Refl relation] [IsTrans (World σ) relation] in
theorem readStable : ReadStable cfg relation stops where
  toBaseStable := stable.toBaseStable
  reading := stable.reading

theorem keeps_destroyOption : ∀ cmd, Keeps relation stops (Command.destroyOption cfg cmd)
  | some cmd => (stable.destroying cmd).keeps_destroy
  | none => keeps_pure ()

section Reading

variable {reconnect : Reconnect σ}
  (reads : ∀ cmd, Keeps relation stops (Connection.readNextResult cfg reconnect cmd))
include reads

theorem keeps_readOutput (cmd : CommandId) (list cols singleRow : Bool) :
    Keeps relation stops (readOutput cfg reconnect cmd list cols singleRow) :=
  stable.readStable.keeps_readOutput reads cmd list cols singleRow

/-- What `execReadOutput` does once the command is set up. -/
theorem keeps_readOutputAndDestroy (cmd : Option CommandId) (list cols singleRow : Bool) :
    Keeps relation stops (ensure (do
        let result ← readOutputOption cfg reconnect cmd list cols singleRow
        if ← isException then pure .nothing else pure result)
      (Command.destroyOption cfg cmd)) :=
  stable.readStable.keeps_readOutputAndDestroy reads stable.keeps_destroyOption cmd
    list cols singleRow

theorem keeps_readNextResultOf (context : Option CommandId) :
    Keeps relation stops (Statement.readNextResult cfg reconnect context) :=
  stable.readStable.keeps_readNextResultOf reads context

end Reading

end CommandStable

namespace FrameStable

variable {cfg : Config σ} {relation : World σ → World σ → Prop}
  {stops : Halt → World σ → World σ → Prop} [Std.Refl relation] [IsTrans (World σ) relation]
  (stable : FrameStable cfg relation stops)
include stable

theorem keeps_cancelContext (statement : StatementId) :
    Keeps relation stops (Statement.cancelContext cfg statement) :=
  stable.toCommandStable.readStable.keeps_cancelContext statement

theorem keeps_resetContext (statement : StatementId) (context : Option CommandId) :
    Keeps relation stops (Statement.resetContext cfg statement context) :=
  keeps_bind (stable.keeps_getModuleWrap statement) fun _ =>
    keeps_bind (keeps_modify fun world => stable.holds world statement context) fun _ =>
      stable.keeps_destroyOption _

end FrameStable

namespace QuietStable

variable {cfg : Config σ} {relation : World σ → World σ → Prop}
  {stops : Halt → World σ → World σ → Prop}

/-- Two relations that every quiet method keeps are kept at once. -/
theorem both {relation' : World σ → World σ → Prop} {stops' : Halt → World σ → World σ → Prop}
    (first : QuietStable cfg relation stops) (second : QuietStable cfg relation' stops') :
    QuietStable cfg (Both relation relation') (StopsBoth stops stops') where
  raise world err desc := ⟨first.raise world err desc, second.raise world err desc⟩
  discard world := ⟨first.discard world, second.discard world⟩
  halts world reason other := ⟨first.halts world reason other, second.halts world reason other⟩
  call world site call quiet succeeds :=
    ⟨first.call world site call quiet succeeds, second.call world site call quiet succeeds⟩
  record world event quiet := ⟨first.record world event quiet, second.record world event quiet⟩
  commands world commands nextCommand nextHandle later fresh unused :=
    ⟨first.commands world commands nextCommand nextHandle later fresh unused,
      second.commands world commands nextCommand nextHandle later fresh unused⟩
  connection world connection nextConnection aborted kept marked :=
    ⟨first.connection world connection nextConnection aborted kept marked,
      second.connection world connection nextConnection aborted kept marked⟩
  statements world statements kept :=
    ⟨first.statements world statements kept, second.statements world statements kept⟩
  terminated world cmd failed :=
    ⟨first.terminated world cmd failed, second.terminated world cmd failed⟩

/-- A change of a command that is there. -/
theorem changed (stable : QuietStable cfg relation stops) (world : World σ) (id : CommandId)
    (change : Command → Command) : relation world { world with
      commands := Function.update world.commands id ((world.commands id).map change) } :=
  stable.commands world _ _ _ (Nat.le_refl _) (Nat.le_refl _) fun other _ none => by
    by_cases same : other = id
    · rw [same, Function.update_self, ← same, none, Option.map_none]
    · rw [Function.update_of_ne same, none]

/-- A change of the private data of a statement that has some. -/
theorem changedStatement (stable : QuietStable cfg relation stops) (world : World σ)
    (statement : StatementId) (change : ModuleWrap → ModuleWrap) : relation world { world with
      statements := Function.update world.statements statement
        ((world.statements statement).map change) } :=
  stable.statements world _ fun other => by
    by_cases same : other = statement
    · rw [same, Function.update_self, Option.isSome_map]
    · rw [Function.update_of_ne same]

theorem readingStable (stable : QuietStable cfg relation stops) (id : CommandId) :
    ReadingStable cfg id relation stops where
  toBaseStable := stable.toBaseStable
  call site call notClear _ reading _ := by
    refine stable.call _ site call ?_ fun isClear => absurd isClear notClear
    cases call <;> first | rfl | cases reading
  value world _ _ := stable.record world _ rfl
  modify world change _ := stable.changed world id change

theorem bindStable (stable : QuietStable cfg relation stops) (id : CommandId) :
    BindStable cfg id relation stops where
  toBaseStable := stable.toBaseStable
  bind world call binding := by
    refine stable.call world _ call ?_ (by simp)
    cases call <;> first | rfl | cases binding
  query world query := stable.changed world id _

theorem destroyStable (stable : QuietStable cfg relation stops) (id : CommandId) :
    DestroyStable cfg id relation stops where
  toBaseStable := stable.toBaseStable
  clear world _ succeeded := stable.call world _ _ rfl fun _ => succeeded
  terminated := stable.terminated
  drop world _ := stable.call world _ _ rfl (by simp)
  handle world := stable.changed world id _
  remove world := stable.commands world _ _ _ (Nat.le_refl _) (Nat.le_refl _) fun other _ none => by
    by_cases same : other = id
    · rw [same, Function.update_self]
    · rw [Function.update_of_ne same, none]

theorem closeStable (stable : QuietStable cfg relation stops) : CloseStable cfg relation stops where
  toBaseStable := stable.toBaseStable
  close world site call notClear closing := by
    refine stable.call world site call ?_ fun isClear => absurd isClear notClear
    cases call <;> first | rfl | cases closing
  noted world _ := stable.record world _ rfl
  disconnect world id := stable.changed world id _
  invalid world statement := stable.changedStatement world statement _
  unregister world := stable.connection world _ _ _ (.inr rfl) id
  reset world connection kept := stable.connection world connection _ _ (.inl kept) id

theorem sessionStable (stable : QuietStable cfg relation stops) :
    SessionStable cfg relation stops where
  toBaseStable := stable.toBaseStable
  call world call isInit := by
    refine stable.call world _ call ?_ (by simp)
    cases call <;> first | rfl | cases isInit
  connection world connection nextConnection same _ :=
    stable.connection world connection nextConnection world.connectionAborted (.inl same) id

variable [Std.Refl relation] [IsTrans (World σ) relation] (stable : QuietStable cfg relation stops)
include stable

/-! ### Commands -/

omit [Std.Refl relation] [IsTrans (World σ) relation] in
theorem keeps_ctCallAt {site : Site} (notClear : site ≠ .clear) {call : CtCall}
    (quiet : call.isQuiet = true) : Keeps relation stops (ctCallAt cfg site call) := fun world =>
  stable.call world site call quiet fun isClear => absurd isClear notClear

omit [Std.Refl relation] [IsTrans (World σ) relation] in
theorem keeps_modifyCommand (id : CommandId) (change : Command → Command) :
    Keeps relation stops (modifyCommand id change : Driver σ Unit) :=
  keeps_modify fun world => stable.changed world id change

omit [IsTrans (World σ) relation] in
theorem keeps_getCommand (id : CommandId) :
    Keeps relation stops (getCommand id : Driver σ Command) := fun world =>
  (wp_getCommand id).mpr ⟨fun _ _ => refl_of relation world,
    fun _ => ⟨world, refl_of relation world, stable.halts world _ (by simp)⟩⟩

omit [Std.Refl relation] [IsTrans (World σ) relation] in
theorem keeps_modifyModuleWrap (statement : StatementId) (change : ModuleWrap → ModuleWrap) :
    Keeps relation stops (modifyModuleWrap statement change : Driver σ Unit) :=
  keeps_modify fun world => stable.changedStatement world statement change

theorem keeps_create : Keeps relation stops (Command.create cfg) := by
  refine keeps_bind keeps_get fun world => ?_
  refine keeps_bind (stable.keeps_ctCallAt (by simp) rfl) fun reply => ?_
  refine keeps_bind (keeps_modify fun world => stable.commands world _ _ _ (Nat.le_succ _)
    (Nat.le_succ _) fun other above none => ?_) fun _ => ?_
  · rwa [Function.update_of_ne (Nat.ne_of_gt above)]
  · exact keeps_bind (keeps_when _ fun _ => stable.keeps_raiseException _ _) fun _ => keeps_pure _

theorem frameStable : FrameStable cfg relation stops where
  toBaseStable := stable.toBaseStable
  call := stable.sessionStable.call
  connection := stable.sessionStable.connection
  reading := stable.readingStable
  binding := stable.bindStable
  destroying := stable.destroyStable
  creates := stable.keeps_create
  holds world statement _ := stable.changedStatement world statement _

theorem keeps_destroyOption (cmd : Option CommandId) :
    Keeps relation stops (Command.destroyOption cfg cmd) :=
  stable.frameStable.keeps_destroyOption cmd

end QuietStable

/-! ### Sending -/

namespace SendStable

variable {cfg : Config σ} {relation : World σ → World σ → Prop}
  {stops : Halt → World σ → World σ → Prop} [Std.Refl relation] [IsTrans (World σ) relation]
  (stable : SendStable cfg relation stops)
include stable

theorem keeps_send (id : CommandId) : Keeps relation stops (Command.send cfg id) :=
  stable.keeps_getCommand_then fun _ => keeps_bind (fun world => stable.asks world _ rfl) fun _ =>
    keeps_when _ fun _ => stable.keeps_doException _ _

theorem keeps_ping : Keeps relation stops (ping cfg) :=
  keeps_bind (fun world => stable.asks world _ rfl) fun _ => keeps_pure _

theorem executeStable : ExecuteStable cfg relation stops where
  toReadStable := stable.toCommandStable.readStable
  creates := stable.creates
  binds id := (stable.binding id).keeps_bindQuery
  sends := stable.keeps_send
  pings := stable.keeps_ping
  destroys id := (stable.destroying id).keeps_destroy
  invalidates := stable.invalidates

section Reconnecting

variable {reconnect : Reconnect σ}
  (reconnects : ∀ cmd tryReconnect, Keeps relation stops (reconnect cmd tryReconnect))
include reconnects

theorem keeps_sendOrReconnect (id : CommandId) :
    Keeps relation stops (sendOrReconnect cfg reconnect id) :=
  Sybase.keeps_sendOrReconnect (stable.keeps_send id) stable.keeps_ping reconnects

theorem keeps_setupCommandOnce (cmdText : Text) (args : Option (List QoreValue)) (raw : Bool) :
    Keeps relation stops (setupCommandOnce cfg reconnect cmdText args raw) :=
  stable.executeStable.keeps_setupCommandOnce reconnects cmdText args raw

theorem keeps_setupCommand (cmdText : Text) (args : Option (List QoreValue)) (raw : Bool) :
    Keeps relation stops (setupCommand cfg reconnect cmdText args raw) :=
  stable.executeStable.keeps_setupCommand reconnects cmdText args raw

theorem keeps_readNextResult (cmd : CommandId) :
    Keeps relation stops (readNextResult cfg reconnect cmd) :=
  stable.toCommandStable.readStable.keeps_readNextResult reconnects cmd

theorem keeps_execReadOutput (cmdText : Text) (args : Option (List QoreValue))
    (needList doBinding cols singleRow : Bool) : Keeps relation stops
      (execReadOutput cfg reconnect cmdText args needList doBinding cols singleRow) :=
  stable.executeStable.keeps_execReadOutput reconnects cmdText args needList
    doBinding cols singleRow

end Reconnecting

end SendStable

/-! ### Reconnecting -/

namespace RequestStable

variable {cfg : Config σ} {relation : World σ → World σ → Prop}
  {stops : Halt → World σ → World σ → Prop} [Std.Refl relation] [IsTrans (World σ) relation]
  (stable : RequestStable cfg relation stops)
include stable

omit [Std.Refl relation] [IsTrans (World σ) relation] in
theorem reopenStable : ReopenStable cfg relation stops where
  toSessionStable := stable.toSessionStable
  closes := stable.closes
  lost world _ := stable.notes world _ rfl
  reconnected world _ := stable.notes world _ rfl
  aborts := stable.aborts
  nested := stable.nested

theorem keeps_reopenConnection (clear : ∀ world, relation world { world with xsink := [] })
    {reconnect : Reconnect σ}
    (reconnects : ∀ cmd tryReconnect, Keeps relation stops (reconnect cmd tryReconnect))
    (tryReconnect : Bool) : Keeps relation stops (reopenConnection cfg reconnect tryReconnect) :=
  stable.reopenStable.keeps_reopenConnection clear (fun query args singleRow =>
    stable.toSendStable.keeps_execReadOutput reconnects query args true true false singleRow)
    tryReconnect

/-- Reconnecting keeps what opening the connection again keeps. -/
theorem keeps_closeAndReconnect
    (reopens : ∀ {reconnect : Reconnect σ} (tryReconnect : Bool),
      (∀ cmd tryReconnect, Keeps relation stops (reconnect cmd tryReconnect)) →
        Keeps relation stops (reopenConnection cfg reconnect tryReconnect))
    (bound : Nat) (cmd : CommandId) (tryReconnect : Bool) :
    Keeps relation stops (closeAndReconnect cfg bound cmd tryReconnect) :=
  stable.reopenStable.keeps_closeAndReconnect reopens bound cmd tryReconnect

/-! ### Statements -/

section Reconnecting

variable {reconnect : Reconnect σ}
  (reconnects : ∀ cmd tryReconnect, Keeps relation stops (reconnect cmd tryReconnect))
include reconnects

/-- What `Statement::exec` does once the command is set up. -/
theorem keeps_execSetUp (statement : StatementId) (cmd : Option CommandId) :
    Keeps relation stops (do
      Statement.resetContext cfg statement cmd
      if ← isException then pure (-1 : Int)
      else do
        let _ ← Statement.readNextResult cfg reconnect cmd
        if ← isException then pure (-1) else pure 0) :=
  (stable.toSendStable.executeStable.preparedStable reconnects).keeps_execSetUp
    stable.holds statement cmd

theorem keeps_exec (statement : StatementId) (query : Option Text)
    (args : Option (List QoreValue)) (raw : Bool) :
    Keeps relation stops (Statement.exec cfg reconnect statement query args raw) :=
  stable.toSendStable.executeStable.keeps_exec stable.holds reconnects statement query args raw

end Reconnecting

end RequestStable

/-! ### Statements -/

namespace MethodStable

variable {cfg : Config σ} {relation : World σ → World σ → Prop}
  {stops : Halt → World σ → World σ → Prop} [Std.Refl relation] [IsTrans (World σ) relation]
  (stable : MethodStable cfg relation stops)
include stable

omit [Std.Refl relation] [IsTrans (World σ) relation] in
theorem keeps_modifyModuleWrap (statement : StatementId) {change : ModuleWrap → ModuleWrap}
    (kept : ∀ wrap, (change wrap).m.valid = wrap.m.valid) :
    Keeps relation stops (modifyModuleWrap statement change : Driver σ Unit) :=
  keeps_modify fun world => stable.wraps world statement change kept

omit [Std.Refl relation] [IsTrans (World σ) relation] in
theorem statementStable : StatementStable cfg relation stops where
  toReadStable := stable.toCommandStable.readStable
  wraps world statement change kept := stable.wraps world statement change fun wrap => (kept wrap).1

theorem keeps_fetchRow (statement : StatementId) :
    Keeps relation stops (Statement.fetchRow statement : Driver σ (Option Hash)) :=
  stable.statementStable.keeps_fetchRow statement

theorem keeps_fetchAhead (statement : StatementId) :
    Keeps relation stops (Statement.fetchAhead cfg statement) :=
  stable.statementStable.keeps_fetchAhead statement

theorem keeps_fetchColumns (statement : StatementId) (rows : Int) :
    Keeps relation stops (Statement.fetchColumns cfg statement rows) :=
  stable.statementStable.keeps_fetchColumns statement rows

theorem keeps_getOutput (statement : StatementId) :
    Keeps relation stops (Statement.getOutput cfg statement) :=
  stable.statementStable.keeps_getOutput statement

theorem keeps_affectedRows (statement : StatementId) :
    Keeps relation stops (Statement.affectedRows statement : Driver σ Int) :=
  stable.statementStable.keeps_affectedRows statement

theorem keeps_bindPlaceholders (statement : StatementId) (l : List QoreValue) :
    Keeps relation stops (Statement.bindPlaceholders statement l : Driver σ Int) :=
  stable.statementStable.keeps_bindPlaceholders statement l

section Reconnecting

variable {reconnect : Reconnect σ}
  (reconnects : ∀ cmd tryReconnect, Keeps relation stops (reconnect cmd tryReconnect))
include reconnects

theorem keeps_next (statement : StatementId) :
    Keeps relation stops (Statement.next cfg reconnect statement) :=
  stable.statementStable.keeps_next (stable.toSendStable.keeps_readNextResult reconnects) statement

theorem keeps_fetchRowsOnce (statement : StatementId) (rows : Int) (loop : Int × List Hash) :
    Keeps relation stops (Statement.fetchRowsOnce cfg reconnect statement rows loop) :=
  stable.statementStable.keeps_fetchRowsOnce (stable.keeps_next reconnects) statement rows loop

theorem keeps_fetchRows (statement : StatementId) (rows : Int) :
    Keeps relation stops (Statement.fetchRows cfg reconnect statement rows) :=
  stable.statementStable.keeps_fetchRows (stable.keeps_next reconnects) statement rows

end Reconnecting

end MethodStable

namespace Stable

variable {cfg : Config σ} {relation : World σ → World σ → Prop}
  {stops : Halt → World σ → World σ → Prop} [Std.Refl relation] [IsTrans (World σ) relation]
  (stable : Stable cfg relation stops)
include stable

theorem requestStable : RequestStable cfg relation stops where
  toFrameStable := stable.frameStable
  asks world call loud := stable.loudCall world _ call loud
  invalidates := stable.closeStable.keeps_invalidateStatement
  closes := stable.closeStable.keeps_closeConnection
  notes := stable.loudRecord
  aborts world := stable.connection world _ _ true (.inl rfl) fun _ => rfl
  nested := stable.nested

theorem methodStable : MethodStable cfg relation stops where
  toRequestStable := stable.requestStable
  wraps world statement change _ := stable.changedStatement world statement change

section Reconnecting

variable {reconnect : Reconnect σ}
  (reconnects : ∀ cmd tryReconnect, Keeps relation stops (reconnect cmd tryReconnect))
include reconnects

theorem keeps_readNextResult (cmd : CommandId) :
    Keeps relation stops (readNextResult cfg reconnect cmd) :=
  stable.requestStable.toSendStable.keeps_readNextResult reconnects cmd

theorem keeps_execReadOutput (cmdText : Text) (args : Option (List QoreValue))
    (needList doBinding cols singleRow : Bool) : Keeps relation stops
      (execReadOutput cfg reconnect cmdText args needList doBinding cols singleRow) :=
  stable.requestStable.toSendStable.keeps_execReadOutput reconnects cmdText args needList
    doBinding cols singleRow

end Reconnecting

theorem keeps_reopenConnection (clear : ∀ world, relation world { world with xsink := [] })
    {reconnect : Reconnect σ}
    (reconnects : ∀ cmd tryReconnect, Keeps relation stops (reconnect cmd tryReconnect))
    (tryReconnect : Bool) : Keeps relation stops (reopenConnection cfg reconnect tryReconnect) :=
  stable.requestStable.keeps_reopenConnection clear reconnects tryReconnect

theorem keeps_closeAndReconnect
    (reopens : ∀ {reconnect : Reconnect σ} (tryReconnect : Bool),
      (∀ cmd tryReconnect, Keeps relation stops (reconnect cmd tryReconnect)) →
        Keeps relation stops (reopenConnection cfg reconnect tryReconnect))
    (bound : Nat) (cmd : CommandId) (tryReconnect : Bool) :
    Keeps relation stops (closeAndReconnect cfg bound cmd tryReconnect) :=
  stable.requestStable.keeps_closeAndReconnect reopens bound cmd tryReconnect

/-! ### Commit and rollback -/

omit [Std.Refl relation] [IsTrans (World σ) relation] in
theorem directStable : DirectStable cfg relation stops where
  toBaseStable := stable.toBaseStable
  call world site call notClear direct := by
    cases quiet : call.isQuiet with
    | true => exact stable.call world site call quiet fun isClear => absurd isClear notClear
    | false => exact stable.loudCall world site call quiet
  alloc world := stable.commands world _ _ _ (Nat.le_refl _) (Nat.le_succ _) fun _ _ none => none

end Stable

end Sybase
