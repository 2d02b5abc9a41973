/-
This file proves what the methods that Qore calls can change, in the way it was done for
requests: a relation that each step of the driver keeps is kept by every operation, and an
invariant that holds at the start and is kept holds in every state that is reached.
-/

import SybaseDriver.Growth
import SybaseDriver.Module

namespace Sybase

open Program Connection

variable {σ : Type}

/-- Registering a statement keeps what its last step keeps. -/
theorem keeps_registerStatement {cfg : Config σ} {relation : World σ → World σ → Prop}
    {stops : Halt → World σ → World σ → Prop} [Std.Refl relation] [IsTrans (World σ) relation]
    (stable : CloseStable cfg relation stops) (statement : StatementId)
    (register : ∀ world, relation world { world with
      connection := { world.connection with stmt := some statement } }) :
    Keeps relation stops (registerStatement cfg statement) :=
  stable.invalidatingStable.keeps_registerStatement statement register

/-- What a relation has to hold of for the queries of a Datasource to keep it. -/
structure QueryStable (cfg : Config σ) (relation : World σ → World σ → Prop)
    (stops : Halt → World σ → World σ → Prop) : Prop extends BaseStable relation stops where
  requests : ∀ query args needList doBinding cols singleRow, Keeps relation stops
    (execReadOutput cfg (topReconnect cfg) query args needList doBinding cols singleRow)
  commits : Keeps relation stops (commit cfg)
  rollbacks : Keeps relation stops (rollback cfg)

/-- What a relation has to hold of for every method of a statement to keep it, where the parts that
use the connection do. -/
structure SQLStatementStable (cfg : Config σ) (relation : World σ → World σ → Prop)
    (stops : Halt → World σ → World σ → Prop) :
    Prop extends StatementStable cfg relation stops where
  nexts : ∀ statement, Keeps relation stops (Statement.next cfg (topReconnect cfg) statement)
  registers : ∀ statement, Keeps relation stops (DBModuleWrap.moduleWrap cfg statement)
  closes : ∀ statement, Keeps relation stops (DBModuleWrap.close cfg statement)
  executes : ∀ statement query args raw, Keeps relation stops
    (Statement.exec cfg (topReconnect cfg) statement query args raw)

/-- What a relation has to hold of for every operation to keep it, where the parts that operations
have in common do. -/
structure PartsStable (cfg : Config σ) (relation : World σ → World σ → Prop)
    (stops : Halt → World σ → World σ → Prop) : Prop
    extends SQLStatementStable cfg relation stops, QueryStable cfg relation stops

/-- What a relation has to hold of for opening and closing a Datasource to keep it. -/
structure OpenStable (cfg : Config σ) (relation : World σ → World σ → Prop)
    (stops : Halt → World σ → World σ → Prop) : Prop extends BaseStable relation stops where
  inits : Keeps relation stops (init cfg (topReconnect cfg))
  destroys : Keeps relation stops (Connection.destroy cfg)
  connect : ∀ world : World σ, relation world { world with
    connection := Datasource.newConnection cfg, connectionAborted := false }
  disconnect : ∀ world : World σ, relation world { world with
    connection := Datasource.newConnection cfg }
  setOpen : ∀ (world : World σ) (isOpen : Bool), relation world { world with isOpen := isOpen }

/-- What a relation has to hold of for every operation of an open Datasource to keep it. -/
structure CallStable (cfg : Config σ) (relation : World σ → World σ → Prop)
    (stops : Halt → World σ → World σ → Prop) : Prop extends MethodStable cfg relation stops where
  directs : DirectStable cfg relation stops
  clear : ∀ world : World σ, relation world { world with xsink := [] }

/-- What a relation has to hold of for every operation to keep it, beside what it has to hold of for
requests: statements get private data and lose them, a statement is registered, and a Datasource is
opened and closed. -/
structure OpStable (cfg : Config σ) (relation : World σ → World σ → Prop)
    (stops : Halt → World σ → World σ → Prop) : Prop extends Stable cfg relation stops where
  clear : ∀ world : World σ, relation world { world with xsink := [] }
  wraps : ∀ (world : World σ) (statements : StatementId → Option ModuleWrap),
    relation world { world with statements := statements }
  register : ∀ (world : World σ) (statement : StatementId), relation world { world with
    connection := { world.connection with stmt := some statement } }
  connect : ∀ world : World σ, relation world { world with
    connection := Datasource.newConnection cfg, connectionAborted := false }
  disconnect : ∀ world : World σ, relation world { world with
    connection := Datasource.newConnection cfg }
  setOpen : ∀ (world : World σ) (isOpen : Bool), relation world { world with isOpen := isOpen }

/-- The value of a method is dropped. -/
theorem keeps_dropped {relation : World σ → World σ → Prop}
    {stops : Halt → World σ → World σ → Prop}
    [Std.Refl relation] [IsTrans (World σ) relation] {α : Type} {method : Driver σ α}
    (keeps : Keeps relation stops method) : Keeps relation stops (do
      let _ ← method
      pure ()) := keeps_bind keeps fun _ => keeps_pure _

section Parts

variable {cfg : Config σ} {relation : World σ → World σ → Prop}
  {stops : Halt → World σ → World σ → Prop} [Std.Refl relation] [IsTrans (World σ) relation]

namespace BaseStable

variable (stable : BaseStable relation stops)
include stable

theorem keeps_raise (error : Error) : Keeps relation stops (error.raise : Driver σ Unit) :=
  keeps_bind keeps_isException fun _ => keeps_when _ fun _ => stable.keeps_raiseException _ _

/-- An error that is caught is raised in the sink. -/
theorem keeps_caught {α : Type} {method : Driver σ α} (keeps : Keeps relation stops method)
    (failed : α) : Keeps relation stops (tryCatch method fun error => do
      error.raise
      pure failed) :=
  keeps_tryCatch keeps fun error => keeps_bind (stable.keeps_raise error) fun _ => keeps_pure _

theorem keeps_moduleWrap {statement : StatementId}
    (wraps : ∀ world, world.statements statement = none → relation world { world with
      statements := Function.update world.statements statement (some DBModuleWrap.create) })
    (registers : Keeps relation stops (registerStatement cfg statement)) :
    Keeps relation stops (DBModuleWrap.moduleWrap cfg statement) := by
  intro world
  rw [DBModuleWrap.moduleWrap, wp_bind, wp_get]
  split
  · exact refl_of relation world
  · rename_i absent
    rw [wp_bind, wp_modify]
    exact keeps_after (wraps world absent) (keeps_bind stable.keeps_checkOpen fun _ => registers)

theorem keeps_close {statement : StatementId}
    (unregister : ∀ world : World σ, relation world { world with
      connection := { world.connection with stmt := none } })
    (removes : ∀ world : World σ, relation world { world with
      statements := Function.update world.statements statement none })
    (destroys : ∀ cmd, Keeps relation stops (Command.destroyOption cfg cmd)) :
    Keeps relation stops (DBModuleWrap.close cfg statement) := by
  refine keeps_bind (stable.keeps_getModuleWrap statement) fun wrap => ?_
  refine keeps_bind (keeps_when _ fun _ => keeps_bind stable.keeps_checkOpen fun _ => ?_)
    fun _ => ?_
  · exact keeps_bind keeps_get fun _ => keeps_bind (stable.keeps_assert _ _) fun _ =>
      keeps_modify unregister
  · exact keeps_bind (keeps_modify removes) fun _ => keeps_bind (destroys _) fun _ => keeps_pure _

/-- The destructor of a connection keeps what invalidating the registered statement, the calls that
close the connection, and the end of the process keep. -/
theorem keeps_destroyConnection (invalidates : Keeps relation stops (invalidateStatement cfg))
    (calls : ∀ call : CtCall, call.isClosing = true → call.command? = none →
      Keeps relation stops (ctCall cfg call))
    (crash : ∀ world : World σ, stops .terminate world world) :
    Keeps relation stops (Connection.destroy cfg) := by
  refine keeps_bind (keeps_tryCatch invalidates fun _ => keeps_halt crash) fun _ =>
    keeps_bind keeps_get fun world => keeps_when _ fun _ => ?_
  refine keeps_bind (keeps_when _ fun _ => keeps_bind (calls _ rfl rfl) fun _ =>
    keeps_when _ fun _ =>
    keeps_bind (calls _ rfl rfl) fun _ => stable.keeps_assert _ _) fun _ => ?_
  exact keeps_bind (calls _ rfl rfl) fun _ => stable.keeps_assert _ _

end BaseStable

namespace QueryStable

variable (stable : QueryStable cfg relation stops)
include stable

/-- The methods of a Datasource but those that open and close it. -/
theorem keeps_datasourceOp {op : DatasourceOp} (opens : op ≠ .open) (closes : op ≠ .close) :
    Keeps relation stops (op.run cfg) := by
  have sends : ∀ sql args needList doBinding cols singleRow, Keeps relation stops
      (request cfg (topReconnect cfg) sql args needList doBinding cols singleRow) :=
    fun sql args needList doBinding cols singleRow => stable.toBaseStable.keeps_request
      (fun query => stable.requests query args needList doBinding cols singleRow) sql
  cases op with
  | «open» => exact absurd rfl opens
  | close => exact absurd rfl closes
  | select sql args => exact keeps_dropped (stable.keeps_caught (sends _ _ _ _ _ _) _)
  | selectRow sql args =>
    refine keeps_dropped (stable.keeps_caught (keeps_bind (sends _ _ _ _ _ _) fun value => ?_) _)
    split
    · exact keeps_pure _
    · exact keeps_pure _
    · exact keeps_bind keeps_isException fun raised => keeps_bind
        (keeps_when _ fun _ => stable.keeps_raiseException _ _) fun _ => keeps_pure _
  | selectRows sql args =>
    refine keeps_dropped (stable.keeps_caught (keeps_bind (sends _ _ _ _ _ _) fun value => ?_) _)
    split
    · exact keeps_pure _
    · exact keeps_pure _
  | exec sql args =>
    exact keeps_dropped
      (stable.keeps_caught (keeps_bind (sends _ _ _ _ _ _) fun _ => keeps_pure _) _)
  | execRaw sql =>
    exact keeps_dropped
      (stable.keeps_caught (keeps_bind (sends _ _ _ _ _ _) fun _ => keeps_pure _) _)
  | commit => exact keeps_dropped (stable.keeps_caught stable.commits _)
  | rollback => exact keeps_dropped (stable.keeps_caught stable.rollbacks _)
  | getServerVersion =>
    exact keeps_dropped (stable.keeps_caught
      (stable.keeps_getServerVersion (stable.requests _ _ _ _ _ _)) _)

end QueryStable

namespace OpenStable

variable (stable : OpenStable cfg relation stops)
include stable

theorem keeps_sybaseOpen : Keeps relation stops (Datasource.sybaseOpen cfg) := by
  refine stable.keeps_caught (keeps_bind (keeps_modify stable.connect) fun _ => ?_) _
  refine keeps_bind keeps_isException fun raised => ?_
  split
  · exact keeps_pure _
  · split
    · exact keeps_bind (stable.keeps_raiseException _ _) fun _ => keeps_pure _
    · split
      · exact keeps_bind (stable.keeps_raiseException _ _) fun _ => keeps_pure _
      · refine keeps_bind (keeps_onThrow stable.inits stable.destroys) fun _ =>
          keeps_bind keeps_isException fun raised => ?_
        split
        · exact keeps_bind stable.destroys fun _ => keeps_pure _
        · exact keeps_bind (keeps_modify fun world => stable.setOpen world true) fun _ =>
            keeps_pure _

theorem keeps_sybaseClose : Keeps relation stops (Datasource.sybaseClose cfg) :=
  keeps_bind (keeps_modify fun world => stable.setOpen world false) fun _ =>
    keeps_bind stable.destroys fun _ =>
      keeps_bind (keeps_modify stable.disconnect) fun _ => keeps_pure _

end OpenStable

namespace SQLStatementStable

variable (stable : SQLStatementStable cfg relation stops)
include stable

theorem keeps_prepareIntern (statement : StatementId) (str : Text)
    (args : Option (List QoreValue)) :
    Keeps relation stops (DBModuleWrap.prepareIntern cfg statement str args) :=
  keeps_bind (stable.registers statement) fun _ =>
    keeps_bind (stable.keeps_convertEncoding _ _) fun _ =>
      keeps_bind (stable.keeps_modifyModuleWrap _ fun _ => ⟨rfl, rfl⟩) fun _ => keeps_pure _

/-- `prepare` and `prepare_raw`. -/
theorem keeps_prepare (statement : StatementId) (raw : Bool) (str : Text)
    (args : Option (List QoreValue)) : Keeps relation stops (do
      DBModuleWrap.moduleWrap cfg statement
      modifyModuleWrap statement fun wrap => { wrap with raw := raw }
      DBModuleWrap.prepareIntern cfg statement str args) :=
  keeps_bind (stable.registers statement) fun _ =>
    keeps_bind (stable.keeps_modifyModuleWrap _ fun _ => ⟨rfl, rfl⟩) fun _ =>
      stable.keeps_prepareIntern _ _ _

theorem keeps_bindArguments (statement : StatementId) (l : List QoreValue) :
    Keeps relation stops (DBModuleWrap.bind cfg statement l) :=
  keeps_bind (stable.registers statement) fun _ =>
    keeps_bind (stable.keeps_modifyModuleWrap _ fun _ => ⟨rfl, rfl⟩) fun _ => keeps_pure _

theorem keeps_execMethod (statement : StatementId) :
    Keeps relation stops (DBModuleWrap.exec cfg statement) :=
  stable.keeps_caught (keeps_bind (stable.registers statement) fun _ =>
    keeps_bind (stable.keeps_getModuleWrap statement) fun _ => stable.executes _ _ _ _) _

theorem keeps_run {α : Type} (statement : StatementId) (failed : α) {method : Driver σ α}
    (keeps : Keeps relation stops method) :
    Keeps relation stops (DBModuleWrap.run cfg statement failed method) := by
  refine stable.keeps_caught (keeps_bind keeps_isException fun raised => ?_) _
  split
  · exact keeps_pure _
  · exact keeps_bind (stable.registers statement) fun _ => keeps

theorem keeps_statementOp (statement : StatementId) (op : StatementOp) :
    Keeps relation stops (op.run cfg statement) := by
  cases op with
  | prepare str args => exact keeps_dropped (stable.keeps_prepare statement false str args)
  | prepareRaw str => exact keeps_dropped (stable.keeps_prepare statement true str none)
  | close => exact keeps_dropped (stable.closes statement)
  | bind l => exact keeps_dropped (stable.keeps_bindArguments statement l)
  | bindPlaceholders l =>
    exact keeps_dropped (stable.keeps_run statement _ (stable.keeps_bindPlaceholders _ l))
  | exec => exact keeps_dropped (stable.keeps_execMethod statement)
  | next => exact keeps_dropped (stable.keeps_run statement _ (stable.nexts _))
  | fetchRow =>
    exact keeps_dropped (stable.keeps_run statement _ (stable.toStatementStable.keeps_fetchRow _))
  | fetchRows rows =>
    exact keeps_dropped (stable.keeps_run statement _ (stable.keeps_fetchRows stable.nexts _ rows))
  | fetchColumns rows =>
    exact keeps_dropped (stable.keeps_run statement _ (stable.keeps_fetchColumns _ rows))
  | getOutput => exact keeps_dropped (stable.keeps_run statement _ (stable.keeps_getOutput _))
  | affectedRows => exact keeps_dropped (stable.keeps_run statement _ (stable.keeps_affectedRows _))
  | unsupported => exact keeps_dropped (stable.keeps_run statement _ (keeps_pure 0))

end SQLStatementStable

namespace PartsStable

variable (stable : PartsStable cfg relation stops)
include stable

/-- Every operation keeps the relation. -/
theorem keeps_op (opens : OpenStable cfg relation stops) (op : Op) :
    Keeps relation stops (op.run cfg) := by
  cases op with
  | statement statement op => exact stable.toSQLStatementStable.keeps_statementOp statement op
  | datasource op =>
    refine keeps_bind keeps_get fun world => ?_
    split
    · cases op with
      | «open» => exact keeps_dropped opens.keeps_sybaseOpen
      | close => exact keeps_dropped opens.keeps_sybaseClose
      | _ => exact stable.toQueryStable.keeps_datasourceOp (by simp) (by simp)
    · exact stable.keeps_undefined

end PartsStable

end Parts

namespace CallStable

variable {cfg : Config σ} {relation : World σ → World σ → Prop}
  {stops : Halt → World σ → World σ → Prop} [Std.Refl relation] [IsTrans (World σ) relation]
  (stable : CallStable cfg relation stops)
include stable

theorem keeps_topReconnect (cmd : CommandId) (tryReconnect : Bool) :
    Keeps relation stops (topReconnect cfg cmd tryReconnect) :=
  stable.keeps_closeAndReconnect
    (fun tryReconnect reconnects =>
      stable.keeps_reopenConnection stable.clear reconnects tryReconnect) cfg.fuel cmd tryReconnect

/-- An error that is caught is raised in the sink. -/
theorem keeps_caught {α : Type} {method : Driver σ α} (keeps : Keeps relation stops method)
    (failed : α) : Keeps relation stops (tryCatch method fun error => do
      error.raise
      pure failed) := stable.toBaseStable.keeps_caught keeps failed

theorem keeps_request (sql : Text) (args : Option (List QoreValue))
    (needList doBinding cols singleRow : Bool) : Keeps relation stops
      (request cfg (topReconnect cfg) sql args needList doBinding cols singleRow) :=
  stable.toBaseStable.keeps_request (fun query =>
    stable.toSendStable.keeps_execReadOutput stable.keeps_topReconnect query args
      needList doBinding cols singleRow) sql

theorem queryStable : QueryStable cfg relation stops where
  toBaseStable := stable.toBaseStable
  requests := stable.toSendStable.keeps_execReadOutput stable.keeps_topReconnect
  commits := stable.directs.keeps_commit
  rollbacks := stable.directs.keeps_rollback

/-- The methods of a Datasource but those that open and close it. -/
theorem keeps_datasourceOp {op : DatasourceOp} (opens : op ≠ .open) (closes : op ≠ .close) :
    Keeps relation stops (op.run cfg) := stable.queryStable.keeps_datasourceOp opens closes

end CallStable

namespace OpStable

variable {cfg : Config σ} {relation : World σ → World σ → Prop}
  {stops : Halt → World σ → World σ → Prop} [Std.Refl relation] [IsTrans (World σ) relation]
  (stable : OpStable cfg relation stops)
include stable

theorem callStable : CallStable cfg relation stops where
  toMethodStable := stable.methodStable
  directs := stable.directStable
  clear := stable.clear

/-! ### SQLStatement methods -/

theorem keeps_topReconnect (cmd : CommandId) (tryReconnect : Bool) :
    Keeps relation stops (topReconnect cfg cmd tryReconnect) :=
  stable.callStable.keeps_topReconnect cmd tryReconnect

/-- An error that is caught is raised in the sink. -/
theorem keeps_caught {α : Type} {method : Driver σ α} (keeps : Keeps relation stops method)
    (failed : α) : Keeps relation stops (tryCatch method fun error => do
      error.raise
      pure failed) := stable.callStable.keeps_caught keeps failed

theorem keeps_moduleWrap (statement : StatementId) :
    Keeps relation stops (DBModuleWrap.moduleWrap cfg statement) :=
  stable.toBaseStable.keeps_moduleWrap (fun world _ => stable.wraps world _)
    (keeps_registerStatement stable.closeStable statement fun world =>
      stable.register world statement)

theorem keeps_close (statement : StatementId) :
    Keeps relation stops (DBModuleWrap.close cfg statement) :=
  stable.toBaseStable.keeps_close stable.closeStable.unregister (fun world => stable.wraps world _)
    stable.keeps_destroyOption

theorem partsStable : PartsStable cfg relation stops where
  toStatementStable := stable.methodStable.statementStable
  requests := stable.callStable.queryStable.requests
  commits := stable.callStable.queryStable.commits
  rollbacks := stable.callStable.queryStable.rollbacks
  nexts := stable.methodStable.keeps_next stable.keeps_topReconnect
  registers := stable.keeps_moduleWrap
  closes := stable.keeps_close
  executes := stable.requestStable.keeps_exec stable.keeps_topReconnect

theorem keeps_execMethod (statement : StatementId) :
    Keeps relation stops (DBModuleWrap.exec cfg statement) :=
  stable.partsStable.keeps_execMethod statement

theorem keeps_run {α : Type} (statement : StatementId) (failed : α) {method : Driver σ α}
    (keeps : Keeps relation stops method) :
    Keeps relation stops (DBModuleWrap.run cfg statement failed method) :=
  stable.partsStable.keeps_run statement failed keeps

theorem keeps_statementOp (statement : StatementId) (op : StatementOp) :
    Keeps relation stops (op.run cfg statement) := stable.partsStable.keeps_statementOp statement op

/-! ### Datasource methods -/

variable (crash : ∀ world : World σ, stops .terminate world world)

theorem keeps_request (sql : Text) (args : Option (List QoreValue))
    (needList doBinding cols singleRow : Bool) : Keeps relation stops
      (request cfg (topReconnect cfg) sql args needList doBinding cols singleRow) :=
  stable.callStable.keeps_request sql args needList doBinding cols singleRow

theorem keeps_initMethod : Keeps relation stops (init cfg (topReconnect cfg)) :=
  stable.sessionStable.keeps_init (stable.sessionStable.keeps_setEncoding stable.clear
    fun query args singleRow =>
      stable.keeps_execReadOutput stable.keeps_topReconnect query args true true false singleRow)

include crash in
theorem keeps_destroyConnection : Keeps relation stops (Connection.destroy cfg) :=
  stable.toBaseStable.keeps_destroyConnection stable.closeStable.keeps_invalidateStatement
    (fun call closing _ world => stable.closeStable.close world .other call (by simp) closing) crash

include crash in
theorem openStable : OpenStable cfg relation stops where
  toBaseStable := stable.toBaseStable
  inits := stable.keeps_initMethod
  destroys := stable.keeps_destroyConnection crash
  connect := stable.connect
  disconnect := stable.disconnect
  setOpen := stable.setOpen

include crash in
/-- Every operation keeps the relation. -/
theorem keeps_op (op : Op) : Keeps relation stops (op.run cfg) :=
  stable.partsStable.keeps_op (stable.openStable crash) op

end OpStable

/-! ### Runs -/

/-- An invariant as a relation. -/
def Preserves (invariant : World σ → Prop) (world after : World σ) : Prop :=
  invariant world → invariant after

instance (invariant : World σ → Prop) : Std.Refl (Preserves invariant) := ⟨fun _ holds => holds⟩

instance (invariant : World σ → Prop) : IsTrans (World σ) (Preserves invariant) :=
  ⟨fun _ _ _ first second holds => second (first holds)⟩

/-- A program keeps an invariant exactly if it does so from the states in which the invariant
holds. -/
theorem keeps_preserves {invariant : World σ → Prop} {halted : Halt → World σ → Prop} {α : Type}
    {program : Driver σ α} :
    Keeps (Preserves invariant) (StopsHolding invariant halted) program ↔
      ∀ world, invariant world → wp program (fun _ after => invariant after)
        (fun _ after => invariant after) halted world := by
  constructor
  · intro keeps world holds
    refine wp_mono (keeps world) (fun _ _ kept => kept holds) (fun _ _ kept => kept holds) ?_
    rintro reason last ⟨middle, kept, stopped⟩
    exact stopped (kept holds)
  · intro keeps world
    rw [wp_iff_forall]
    refine ⟨fun _ _ run holds => ?_, fun _ _ run holds => ?_, fun reason after run => ?_⟩
    · exact (wp_iff_forall.mp (keeps world holds)).1 _ _ run
    · exact (wp_iff_forall.mp (keeps world holds)).2.1 _ _ run
    · exact ⟨world, refl_of (Preserves invariant) world, fun holds =>
        (wp_iff_forall.mp (keeps world holds)).2.2 _ _ run⟩

/-- What holds at the start and is kept by every operation holds in every state that is reached. -/
theorem Reachable.kept {cfg : Config σ} {allowed : World σ → Call → Prop}
    {invariant : World σ → Prop} {stops : Halt → World σ → World σ → Prop}
    (keeps : ∀ op : Op, Keeps (Preserves invariant) stops (op.run cfg))
    (start : ∀ world, world.IsStart → invariant world)
    (calling : ∀ world call, invariant world → invariant (world.calling call))
    {world : World σ} (reached : Reachable cfg allowed world) : invariant world := by
  induction reached with
  | start isStart => exact start _ isStart
  | @call world after call _ _ ends holds =>
    have kept := wp_iff_forall.mp (keeps call.op (world.calling call))
    rcases ends with returns | ⟨error, throws⟩
    · exact kept.1 _ _ returns (calling _ _ holds)
    · exact kept.2.1 _ _ throws (calling _ _ holds)

/-- An invariant that each step of the driver keeps holds in every state that is reached. -/
theorem Reachable.holds {cfg : Config σ} {allowed : World σ → Call → Prop}
    {invariant : World σ → Prop} (stable : OpStable cfg (Preserves invariant) StopsAnyhow)
    (start : ∀ world, world.IsStart → invariant world)
    (calling : ∀ world call, invariant world → invariant (world.calling call))
    {world : World σ} (reached : Reachable cfg allowed world) : invariant world :=
  reached.kept (stable.keeps_op fun _ => trivial) start calling

/-! ### Numbers -/

/-- Every command that is there has a number below the next one. -/
def Numbered (world : World σ) : Prop :=
  ∀ id cmd, world.commands id = some cmd → id < world.nextCommand

theorem Numbered.stable (cfg : Config σ) : OpStable cfg (Preserves Numbered) StopsAnyhow where
  raise _ _ _ numbered := numbered
  discard _ numbered := numbered
  halts _ _ _ := trivial
  call _ _ _ _ _ numbered := numbered
  record _ _ _ numbered := numbered
  loudCall _ _ _ _ numbered := numbered
  loudRecord _ _ _ numbered := numbered
  commands world commands nextCommand _ later _ unused numbered id cmd held := by
    by_contra above
    have absent : world.commands id = none := by
      cases before : world.commands id with
      | none => rfl
      | some cmd => exact absurd (Nat.lt_of_lt_of_le (numbered id cmd before) later) above
    exact absurd held (by simp [unused id (Nat.le_of_not_lt above) absent])
  connection _ _ _ _ _ _ numbered := numbered
  statements _ _ _ numbered := numbered
  nested keeps world := (wp_nested _).mpr (keeps { world with depth := world.depth + 1 })
  terminated _ _ _ := trivial
  clear _ numbered := numbered
  wraps _ _ numbered := numbered
  register _ _ numbered := numbered
  connect _ numbered := numbered
  disconnect _ numbered := numbered
  setOpen _ _ numbered := numbered

theorem Reachable.numbered {cfg : Config σ} {allowed : World σ → Call → Prop} {world : World σ}
    (reached : Reachable cfg allowed world) : Numbered world :=
  reached.holds (Numbered.stable cfg)
    (fun world start id cmd held => by simp [start.commands] at held) fun _ _ numbered => numbered

/-! ### Return codes -/

/-- An execution returns 0 if and only if no exception is pending. -/
theorem wp_exec_value {cfg : Config σ} {statement : StatementId} (reconnect : Reconnect σ)
    (query : Option Text) (args : Option (List QoreValue)) (raw : Bool) (world : World σ) :
    wp (Statement.exec cfg reconnect statement query args raw)
      (fun value after => value = 0 ↔ after.xsink = []) (fun _ _ => True)
      (fun _ _ => True) world := by
  have fails : ∀ after : World σ, (!after.xsink.isEmpty) = true →
      (-1 = (0 : Int) ↔ after.xsink = []) := by
    intro after raised
    simpa using raised
  rw [Statement.exec.eq_def, wp_bind, Statement.checkValid, wp_bind, wp_getModuleWrap]
  refine ⟨fun wrap held => ?_, fun _ => trivial⟩
  split
  · rw [wp_pure, if_neg (by simp)]
    refine wp_bind_any fun _ _ => wp_bind_any fun _ _ => ?_
    cases query with
    | none => trivial
    | some query =>
      refine wp_bind_any fun cmd _ => wp_bind_any fun _ reset => ?_
      rw [wp_bind, wp_isException]
      split
      · rename_i raised
        exact fails reset raised
      · refine wp_bind_any fun _ read => ?_
        rw [wp_bind, wp_isException]
        split
        · rename_i raised
          exact fails read raised
        · rename_i quiet
          exact ⟨fun _ => by simpa using quiet, fun _ => rfl⟩
  · rw [wp_bind, wp_raiseException, wp_pure, if_pos (by simp)]
    exact iff_of_false (by decide) (List.cons_ne_nil _ _)

end Sybase
