/-
This file proves when a statement can be used after it was executed. A connection that is lost
while a statement is executed is opened again, and the command is sent once more; but the
reconnect invalidates the statement that is registered, which is the one being executed. So an
execution leaves what it should if and only if the command is not sent again with success.
-/

import SybaseDriver.CommandLogic
import SybaseDriver.Operations
import SybaseDriver.Resend

namespace Sybase

open Program Connection Statement

variable {σ : Type} {cfg : Config σ} {world middle after : World σ} {statement : StatementId}
  {id : CommandId} {kept : Option CommandId}

/-! ### A statement that may not be used -/

/-- The statement may not be used. -/
def Invalid (statement : StatementId) (world : World σ) : Prop :=
  ∀ wrap, world.statements statement = some wrap → wrap.m.valid = false

namespace Invalid

theorem of_change {change : ModuleWrap → ModuleWrap} (other : StatementId)
    (kept : ∀ wrap, wrap.m.valid = false → (change wrap).m.valid = false)
    (invalid : Invalid statement world) : Invalid statement { world with
      statements := Function.update world.statements other
        ((world.statements other).map change) } := by
  intro wrap held
  by_cases own : statement = other
  · subst own
    simp only [Function.update_self, Option.map_eq_some_iff] at held
    obtain ⟨wrap', held', rfl⟩ := held
    exact kept wrap' (invalid wrap' held')
  · exact invalid wrap (by simpa [own] using held)

theorem closeStable (cfg : Config σ) (statement : StatementId) :
    CloseStable cfg (Preserves (Invalid statement)) StopsAnyhow where
  raise _ _ _ invalid := invalid
  discard _ invalid := invalid
  halts _ _ _ := trivial
  close _ _ _ _ _ invalid := invalid
  disconnect _ _ invalid := invalid
  reset _ _ _ invalid := invalid
  noted _ _ invalid := invalid
  invalid _ other invalid := invalid.of_change other fun _ _ => rfl
  unregister _ invalid := invalid

/-- A request does not make a statement valid. -/
theorem requestStable (cfg : Config σ) (statement : StatementId) :
    RequestStable cfg (Preserves (Invalid statement)) StopsAnyhow where
  raise _ _ _ invalid := invalid
  discard _ invalid := invalid
  halts _ _ _ := trivial
  call _ _ _ invalid := invalid
  connection _ _ _ _ _ invalid := invalid
  reading _ :=
    { raise := fun _ _ _ invalid => invalid
      discard := fun _ invalid => invalid
      halts := fun _ _ _ => trivial
      call := fun _ _ _ _ _ _ invalid => invalid
      value := fun _ _ _ invalid => invalid
      modify := fun _ _ _ invalid => invalid }
  binding _ :=
    { raise := fun _ _ _ invalid => invalid
      discard := fun _ invalid => invalid
      halts := fun _ _ _ => trivial
      bind := fun _ _ _ invalid => invalid
      query := fun _ _ invalid => invalid }
  destroying _ :=
    { raise := fun _ _ _ invalid => invalid
      discard := fun _ invalid => invalid
      halts := fun _ _ _ => trivial
      clear := fun _ _ _ invalid => invalid
      terminated := fun _ _ _ => trivial
      drop := fun _ _ invalid => invalid
      handle := fun _ invalid => invalid
      remove := fun _ invalid => invalid }
  creates _ := wp_create.mpr fun invalid => invalid
  holds _ other _ invalid := invalid.of_change other fun _ same => same
  asks _ _ _ invalid := invalid
  invalidates := (closeStable cfg statement).keeps_invalidateStatement
  closes := (closeStable cfg statement).keeps_closeConnection
  notes _ _ _ invalid := invalid
  aborts _ invalid := invalid
  nested keeps world := by
    refine (wp_nested _).mpr (wp_mono (keeps { world with depth := world.depth + 1 })
      (fun _ _ preserves => preserves) (fun _ _ preserves => preserves) fun _ _ _ => ?_)
    exact ⟨world, refl_of (Preserves (Invalid statement)) world, trivial⟩

theorem keeps_closeAndReconnect (cfg : Config σ) (statement : StatementId) (bound : Nat)
    (cmd : CommandId) (tryReconnect : Bool) :
    Keeps (Preserves (Invalid statement)) StopsAnyhow
      (closeAndReconnect cfg bound cmd tryReconnect) :=
  (requestStable cfg statement).keeps_closeAndReconnect
    (fun tryReconnect reconnects => (requestStable cfg statement).keeps_reopenConnection
      (fun _ invalid => invalid) reconnects tryReconnect) bound cmd tryReconnect

end Invalid

/-- The statement holds a command. -/
def HoldsCommand (statement : StatementId) (world : World σ) : Prop :=
  ∃ wrap id, world.statements statement = some wrap ∧ wrap.m.context = some id

/-- Invalidating the registered statement succeeds only where it holds a command, and makes it
invalid. -/
theorem wp_invalidateStatement (registered : world.connection.stmt = some statement) :
    wp (invalidateStatement cfg)
      (fun _ after => HoldsCommand statement world ∧ Invalid statement after) (fun _ _ => True)
      (fun _ _ => True) world := by
  have made : ∀ middle : World σ, Invalid statement { middle with
      statements := Function.update middle.statements statement
        ((middle.statements statement).map fun wrap =>
          { wrap with m := { wrap.m with valid := false } }) } := by
    intro middle wrap held
    simp only [Function.update_self, Option.map_eq_some_iff] at held
    obtain ⟨wrap', -, rfl⟩ := held
    rfl
  rw [invalidateStatement, wp_bind, wp_get, registered, wp_bind, invalidate, wp_bind, wp_modify,
    wp_bind, wp_getModuleWrap]
  refine ⟨fun wrap held => wp_bind_any fun _ noted => ?_, fun _ => trivial⟩
  split
  · trivial
  · rename_i id context
    refine wp_bind_any fun _ canceled => ?_
    rw [modifyStatement, wp_modifyModuleWrap, wp_modifyConnection]
    exact ⟨⟨wrap, id, held, context⟩, made canceled⟩

/-! ### Steps of an execution -/

/-- The connection was lost and opened again in the request itself. -/
def Reestablished (world after : World σ) : Prop :=
  ∃ trace, Runs world trace after ∧ .reconnected 0 ∈ trace

/-- Steps in which the connection is not opened again: the statements and the one that is registered
are as they were, a handle that a certain command holds is still there, and so is an exception that
is pending. -/
structure Leaves (kept : Option CommandId) (world after : World σ) : Prop where
  ran : ∃ trace, Runs world trace after ∧ .reconnected 0 ∉ trace
  statements : after.statements = world.statements
  stmt : after.connection.stmt = world.connection.stmt
  handles : ∀ id ∈ kept, ∀ cmd handle, world.commands id = some cmd → cmd.mCmd = some handle →
    ∃ cmd', after.commands id = some cmd' ∧ cmd'.mCmd = some handle
  sink : SinkKept world after
  later : world.nextCommand ≤ after.nextCommand

namespace Leaves

theorem of_eq (depth : after.depth = world.depth) (log : after.log = world.log)
    (statements : after.statements = world.statements)
    (stmt : after.connection.stmt = world.connection.stmt)
    (commands : after.commands = world.commands)
    (sink : SinkKept world after) (later : after.nextCommand = world.nextCommand) :
    Leaves kept world after where
  ran := ⟨[], Runs.of_eq depth log, List.not_mem_nil⟩
  statements := statements
  stmt := stmt
  handles _ _ cmd _ held same := ⟨cmd, commands ▸ held, same⟩
  sink := sink
  later := Nat.le_of_eq later.symm

theorem refl (world : World σ) : Leaves kept world world := .of_eq rfl rfl rfl rfl rfl id rfl

theorem trans (first : Leaves kept world middle) (second : Leaves kept middle after) :
    Leaves kept world after where
  ran := by
    obtain ⟨trace, ran, unbroken⟩ := first.ran
    obtain ⟨trace', ran', unbroken'⟩ := second.ran
    exact ⟨trace ++ trace', ran.trans ran', fun member =>
      (List.mem_append.mp member).elim unbroken unbroken'⟩
  statements := second.statements.trans first.statements
  stmt := second.stmt.trans first.stmt
  handles id member cmd handle held same := by
    obtain ⟨cmd', held', same'⟩ := first.handles id member cmd handle held same
    exact second.handles id member cmd' handle held' same'
  sink raised := second.sink (first.sink raised)
  later := Nat.le_trans first.later second.later

instance : Std.Refl (Leaves (σ := σ) kept) := ⟨refl⟩

instance : IsTrans (World σ) (Leaves kept) := ⟨fun _ _ _ => trans⟩

/-- The other commands need not be looked at. -/
theorem weaken (leaves : Leaves kept world after) : Leaves none world after where
  ran := leaves.ran
  statements := leaves.statements
  stmt := leaves.stmt
  handles _ member := nomatch member
  sink := leaves.sink
  later := leaves.later

theorem of_call (site : Site) (call : CtCall) :
    Leaves kept world (world.answered cfg.lib site call) where
  ran := by
    refine ⟨_, Runs.of_call cfg world site call, fun member => ?_⟩
    have step := Option.mem_toList.mp member
    cases call <;> cases step
  statements := rfl
  stmt := rfl
  handles _ _ cmd _ held same := ⟨cmd, held, same⟩
  sink raised := raised
  later := Nat.le_refl _

theorem of_value (datafmt : Datafmt) (cell : Cell) :
    Leaves kept world (world.record .other (.value datafmt cell)) where
  ran := ⟨_, Runs.of_record world _, List.not_mem_nil⟩
  statements := rfl
  stmt := rfl
  handles _ _ cmd _ held same := ⟨cmd, held, same⟩
  sink raised := raised
  later := Nat.le_refl _

/-- A change of a command that keeps its handle, or of another command. -/
theorem of_change {change : Command → Command}
    (same : id ∈ kept → ∀ cmd, (change cmd).mCmd = cmd.mCmd) :
    Leaves kept world { world with
      commands := Function.update world.commands id ((world.commands id).map change) } where
  ran := ⟨[], Runs.of_eq rfl rfl, List.not_mem_nil⟩
  statements := rfl
  stmt := rfl
  handles other member cmd handle held isHandle := by
    by_cases own : other = id
    · subst own
      exact ⟨change cmd, by simp [held], (same member cmd).trans isHandle⟩
    · exact ⟨cmd, by simpa [own] using held, isHandle⟩
  sink raised := raised
  later := Nat.le_refl _

theorem raises (err desc : String) :
    Leaves kept world { world with xsink := ⟨err, desc⟩ :: world.xsink } :=
  .of_eq rfl rfl rfl rfl rfl (fun _ => List.cons_ne_nil _ _) rfl

theorem baseStable : BaseStable (σ := σ) (Leaves kept) StopsAnyhow where
  raise _ err desc := raises err desc
  discard _ := .of_eq rfl rfl rfl rfl rfl id rfl
  halts _ _ _ := trivial

theorem readingStable (cfg : Config σ) (id : CommandId) :
    ReadingStable cfg id (Leaves kept) StopsAnyhow where
  toBaseStable := baseStable
  call site call _ _ _ _ := of_call site call
  value _ datafmt cell := of_value datafmt cell
  modify _ _ same := of_change fun _ cmd => (same cmd).1

theorem bindStable (cfg : Config σ) (id : CommandId) :
    BindStable cfg id (Leaves kept) StopsAnyhow where
  toBaseStable := baseStable
  bind _ call _ := of_call .other call
  query _ _ := of_change fun _ _ => rfl

theorem destroyStable (cfg : Config σ) (other : id ∉ kept) :
    DestroyStable cfg id (Leaves kept) StopsAnyhow where
  toBaseStable := baseStable
  clear _ _ _ := of_call .clear _
  terminated _ _ _ := trivial
  drop _ _ := of_call .other _
  handle _ := of_change fun member => absurd member other
  remove world :=
    { ran := ⟨[], Runs.of_eq rfl rfl, List.not_mem_nil⟩
      statements := rfl
      stmt := rfl
      handles := fun id' member cmd handle held same => by
        have own : id' ≠ id := fun isId => other (isId ▸ member)
        exact ⟨cmd, by simpa [own] using held, same⟩
      sink := fun raised => raised
      later := Nat.le_refl _ }

theorem of_allocated (cfg : Config σ) (world : World σ) :
    Leaves none world (world.allocated cfg) where
  ran := by
    have asked : Leaves none world (world.answered cfg.lib .other (.cmdAlloc world.nextHandle)) :=
      of_call .other _
    obtain ⟨trace, ⟨depth, log⟩, unbroken⟩ := asked.ran
    exact ⟨trace, ⟨depth, log⟩, unbroken⟩
  statements := rfl
  stmt := rfl
  handles _ member := nomatch member
  sink := allocated_xsink
  later := Nat.le_succ _

theorem keeps_cancelDisconnect (cfg : Config σ) (id : CommandId) :
    Keeps (Leaves (σ := σ) none) StopsAnyhow (Command.cancelDisconnect cfg id) := by
  have base : BaseStable (Leaves (σ := σ) none) StopsAnyhow := baseStable
  have canceled : Keeps (Leaves none) StopsAnyhow (Command.cancelIntern cfg .cancelDisconnect id) :=
    base.keeps_getCommand_then fun _ => keeps_bind (base.keeps_assert _ _) fun _ =>
      keeps_bind (fun _ => of_call .cancelDisconnect _) fun _ => keeps_pure _
  refine base.keeps_getCommand_then fun cmd => ?_
  refine keeps_bind (base.keeps_assert _ _) fun _ => keeps_bind canceled fun _ => ?_
  exact keeps_bind (fun _ => of_call .other _) fun _ =>
    keeps_modify fun _ => of_change fun member => nomatch member

end Leaves

/-! ### Reconnecting -/

/-- The connection was opened again, and the statement, which held a command before, may not be
used. -/
structure Lost (statement : StatementId) (world after : World σ) : Prop where
  reestablished : Reestablished world after
  held : HoldsCommand statement world
  invalid : Invalid statement after

namespace Lost

/-- A request makes some steps, whatever else it does. -/
theorem exists_runs (grown : Extends world after) : ∃ trace, Runs world trace after := by
  obtain ⟨new, log, -⟩ := grown.log
  exact ⟨_, grown.depth, new, log, rfl⟩

theorem later (lost : Lost statement world middle) (grown : Extends middle after)
    (invalid : Preserves (Invalid statement) middle after) : Lost statement world after where
  reestablished := by
    obtain ⟨trace, ran, member⟩ := lost.reestablished
    obtain ⟨trace', ran'⟩ := exists_runs grown
    exact ⟨trace ++ trace', ran.trans ran', List.mem_append_left _ member⟩
  held := lost.held
  invalid := invalid lost.invalid

theorem earlier (leaves : Leaves kept world middle) (lost : Lost statement middle after) :
    Lost statement world after where
  reestablished := by
    obtain ⟨trace, ran, -⟩ := leaves.ran
    obtain ⟨trace', ran', member⟩ := lost.reestablished
    exact ⟨trace ++ trace', ran.trans ran', List.mem_append_right _ member⟩
  held := by
    obtain ⟨wrap, id, held, context⟩ := lost.held
    exact ⟨wrap, id, leaves.statements ▸ held, context⟩
  invalid := lost.invalid

/-- A statement that may not be used stays so in what follows. -/
theorem wp_keeps {α : Type} {program : Driver σ α} (lost : Lost statement world middle)
    (extends' : Keeps Extends StopsAtClear program)
    (invalid : Keeps (Preserves (Invalid statement)) StopsAnyhow program) :
    wp program (fun _ after => Lost statement world after) (fun _ _ => True) (fun _ _ => True)
      middle :=
  wp_mono (Program.wp_and (extends' middle) (invalid middle))
    (fun _ _ both => lost.later both.1 both.2) (fun _ _ _ => trivial) fun _ _ _ => trivial

end Lost

/-- A program after which the statement may not be used stays so. -/
theorem Invalid.wp_preserved {α : Type} {program : Driver σ α} (invalid : Invalid statement world)
    (keeps : Keeps (Preserves (Invalid statement)) StopsAnyhow program) :
    wp program (fun _ after => Invalid statement after) (fun _ _ => True) (fun _ _ => True) world :=
  wp_mono (keeps world) (fun _ _ preserves => preserves invalid) (fun _ _ _ => trivial)
    fun _ _ _ => trivial

/-- Closing the connection invalidates the statement that is registered, if it succeeds. -/
theorem wp_closeConnection_invalid (registered : world.connection.stmt = some statement)
    (cmd : CommandId) :
    wp (closeConnection cfg cmd)
      (fun _ after => HoldsCommand statement world ∧ Invalid statement after) (fun _ _ => True)
      (fun _ _ => True) world := by
  have stable := Invalid.closeStable cfg statement
  rw [closeConnection, wp_bind]
  refine wp_mono (Leaves.keeps_cancelDisconnect cfg cmd _) (fun _ canceled leaves => ?_)
    (fun _ _ _ => trivial) fun _ _ _ => trivial
  rw [wp_bind]
  refine wp_mono_ok (wp_invalidateStatement (leaves.stmt.trans registered)) ?_
  rintro _ invalidated ⟨⟨wrap, id, held, context⟩, invalid⟩
  refine wp_mono_ok (invalid.wp_preserved ?_)
    fun _ _ invalid => ⟨⟨wrap, id, leaves.statements ▸ held, context⟩, invalid⟩
  refine keeps_bind (fun world => stable.close world _ _ (by simp) rfl) fun _ => ?_
  refine keeps_bind (stable.keeps_modifyConnection fun _ => rfl) fun _ => ?_
  refine keeps_bind (keeps_modify stable.discard) fun _ => ?_
  refine keeps_bind (keeps_bind keeps_get fun _ => keeps_pure _) fun inTransaction => ?_
  refine keeps_bind (keeps_when _ fun _ => stable.keeps_raiseException _ _) fun _ => ?_
  refine keeps_bind keeps_get fun world => ?_
  exact keeps_bind (fun world => stable.close world _ _ (by simp) rfl) fun _ =>
    stable.keeps_modifyConnection fun _ => rfl

/-- A reconnect that returns invalidates the statement that was registered. -/
theorem wp_closeAndReconnect_invalid (registered : world.connection.stmt = some statement)
    (bound : Nat) (cmd : CommandId) (tryReconnect : Bool) :
    wp (closeAndReconnect cfg bound cmd tryReconnect)
      (fun _ after => HoldsCommand statement world ∧ Invalid statement after) (fun _ _ => True)
      (fun _ _ => True) world := by
  have stable := Invalid.requestStable cfg statement
  cases bound with
  | zero => trivial
  | succ bound =>
    have reopens := stable.keeps_reopenConnection (fun _ invalid => invalid)
      (Invalid.keeps_closeAndReconnect cfg statement bound) tryReconnect
    have noted : (world.record .other (.lost tryReconnect)).connection.stmt = some statement :=
      registered
    rw [closeAndReconnect, wp_bind, wp_modify, wp_bind]
    refine wp_mono_ok (wp_closeConnection_invalid noted cmd) ?_
    rintro _ closed ⟨held, invalid⟩
    refine wp_mono_ok (invalid.wp_preserved (keeps_bind reopens fun _ => ?_))
      fun _ _ invalid => ⟨held, invalid⟩
    exact keeps_bind (keeps_modify fun world => stable.notes world _ rfl) fun _ => keeps_pure _

/-- A reconnect that returns 0 invalidates the statement that was registered. -/
theorem wp_closeAndReconnect_lost (registered : world.connection.stmt = some statement)
    (bound : Nat) (cmd : CommandId) (tryReconnect : Bool) :
    wp (closeAndReconnect cfg bound cmd tryReconnect)
      (fun result after => result = 0 → Lost statement world after) (fun _ _ => True)
      (fun _ _ => True) world := by
  have runs : wp (closeAndReconnect cfg bound cmd tryReconnect)
      (fun result after => Runs world [.lost tryReconnect, .reconnected result] after)
      (fun _ _ => True) (fun _ _ => True) world :=
    wp_mono (wp_closeAndReconnect cfg bound cmd tryReconnect world) (fun _ _ ran => ran.1)
      (fun _ _ _ => trivial) fun _ _ _ => trivial
  refine wp_mono (Program.wp_and runs (wp_closeAndReconnect_invalid registered bound
    cmd tryReconnect))
    ?_ (fun _ _ _ => trivial) fun _ _ _ => trivial
  rintro _ after ⟨ran, held, invalid⟩ rfl
  exact ⟨⟨_, ran, by simp⟩, held, invalid⟩

/-! ### Setting up the command -/

/-- Sending a command: it is sent, or the connection was lost and opened again. -/
theorem wp_sendOrReconnect_lost (registered : world.connection.stmt = some statement) (bound : Nat)
    (id : CommandId) :
    wp (sendOrReconnect cfg (closeAndReconnect cfg bound) id)
      (fun sent after => if sent then Leaves (some id) world after else Lost statement world after)
      (fun _ _ => True) (fun _ _ => True) world := by
  have failed : ∀ cmd, Leaves (some id) world
      (world.answered cfg.lib .other (.send cmd)).discarded := fun cmd =>
    (Leaves.of_call .other _).trans (Leaves.baseStable.discard _)
  rw [sendOrReconnect, wp_tryCatch, wp_bind, Command.send, wp_bind, wp_getCommand]
  refine ⟨fun cmd _ => ?_, fun _ => trivial⟩
  rw [wp_bind, wp_ctCall, wp_when, wp_doException]
  refine ⟨fun _ => ?_, fun _ => Leaves.of_call .other _⟩
  rw [wp_bind, ping, wp_bind, wp_ctCall, wp_pure]
  split
  · trivial
  · have pinged : Leaves (some id) world _ :=
      (failed cmd.mCmd).trans (@Leaves.of_call _ cfg _ _ .other .conStatus)
    rw [wp_bind]
    refine wp_mono_ok (wp_closeAndReconnect_lost (pinged.stmt.trans registered) bound id true)
      fun result after lost => ?_
    split
    · trivial
    · rename_i zero
      exact (lost (not_not.mp zero)).earlier pinged

/-- A command that holds a handle. -/
def Live (id : CommandId) (world : World σ) : Prop :=
  ∃ cmd handle, world.commands id = some cmd ∧ cmd.mCmd = some handle

theorem Leaves.live (leaves : Leaves (some id) world after) (live : Live id world) :
    Live id after := by
  obtain ⟨cmd, handle, held, same⟩ := live
  obtain ⟨cmd', held', same'⟩ := leaves.handles id rfl cmd handle held same
  exact ⟨cmd', handle, held', same'⟩

/-- A new command holds a handle, or there is an exception. -/
theorem live_allocated (world : World σ) :
    (world.allocated cfg).xsink = [] → Live world.nextCommand (world.allocated cfg) := by
  intro quiet
  have succeeded : (cfg.lib.reply (.cmdAlloc world.nextHandle) world.env).1.code = .succeed := by
    by_contra failed
    simp [World.allocated, failed] at quiet
  refine ⟨_, world.nextHandle, Function.update_self _ _ _, ?_⟩
  rw [World.newHandle, if_pos succeeded]

/-- The command was set up without a reconnect. -/
def SetUpAtOnce (world : World σ) (cmd : Option CommandId) (after : World σ) : Prop :=
  Leaves none world after ∧
    ∀ id ∈ cmd, world.nextCommand ≤ id ∧ (after.xsink = [] → Live id after)

/-- One pass of `setupCommand`. -/
theorem wp_setupCommandOnce_lost (registered : world.connection.stmt = some statement) (bound : Nat)
    (cmdText : Text) (args : Option (List QoreValue)) (raw : Bool) :
    wp (setupCommandOnce cfg (closeAndReconnect cfg bound) cmdText args raw)
      (Sum.elim (fun _ => Lost statement world) (SetUpAtOnce world)) (fun _ _ => True)
      (fun _ _ => True) world := by
  have base : BaseStable (Leaves (σ := σ) none) StopsAnyhow := Leaves.baseStable
  rw [setupCommandOnce, wp_bind]
  refine wp_mono (base.keeps_initQuery cmdText args raw world)
    (fun query first leaves => ?_) (fun _ _ _ => trivial) fun _ _ _ => trivial
  cases query with
  | none => exact ⟨leaves, fun id member => absurd member (by simp)⟩
  | some query =>
    rw [wp_bind, wp_create, wp_bind, wp_onThrow, wp_bind]
    have created : Leaves none world (first.allocated cfg) := leaves.trans (.of_allocated cfg first)
    have destroyed : ∀ state : World σ, wp (Command.destroy cfg first.nextCommand)
        (fun _ _ => True) (fun _ _ => True) (fun _ _ => True) state := fun _ => wp_trivial _ _
    refine wp_mono ((Leaves.bindStable cfg first.nextCommand).keeps_bindQuery query args
        (first.allocated cfg)) (fun _ bound' (binds : Leaves (some first.nextCommand) _ _) => ?_)
      (fun _ state _ => destroyed state) fun _ _ _ => trivial
    have middle : Leaves none world bound' := created.trans binds.weaken
    refine wp_mono (wp_sendOrReconnect_lost (middle.stmt.trans registered) bound first.nextCommand)
      (fun sent after ended => ?_) (fun _ state _ => destroyed state) fun _ _ _ => trivial
    cases sent with
    | true =>
      have sends : Leaves (some first.nextCommand) bound' after := ended
      refine ⟨middle.trans sends.weaken, fun id member => ?_⟩
      obtain rfl : first.nextCommand = id := Option.some.inj member
      refine ⟨leaves.later, fun quiet => sends.live (binds.live (live_allocated first ?_))⟩
      by_contra raised
      exact sends.sink (binds.sink raised) quiet
    | false =>
      have lost : Lost statement world after := Lost.earlier middle ended
      have destroys := ((Extends.stable cfg).destroyStable first.nextCommand).keeps_destroy
      have preserves :=
        ((Invalid.requestStable cfg statement).destroying first.nextCommand).keeps_destroy
      rw [if_neg Bool.false_ne_true, wp_bind]
      exact lost.wp_keeps destroys preserves

/-- Setting up a command: it is set up at once, or the connection was opened again. -/
theorem wp_setupCommand_lost (registered : world.connection.stmt = some statement) (bound : Nat)
    (cmdText : Text) (args : Option (List QoreValue)) (raw : Bool) :
    wp (setupCommand cfg (closeAndReconnect cfg bound) cmdText args raw)
      (fun cmd after => Lost statement world after ∨ SetUpAtOnce world cmd after)
      (fun _ _ => True) (fun _ _ => True) world := by
  refine wp_iterate (fun _ middle => middle = world ∨ Lost statement world middle)
    (fun _ _ _ => trivial) (fun _ middle holds => ?_) _ () world (.inl rfl)
  rcases holds with rfl | lost
  · refine wp_mono_ok (wp_setupCommandOnce_lost registered bound cmdText args raw) ?_
    rintro (again | cmd) after ended
    · exact .inr ended
    · exact .inr ended
  · have extends' := (Extends.stable cfg).requestStable.toSendStable.keeps_setupCommandOnce
      (Extends.keeps_closeAndReconnect cfg bound) cmdText args raw
    have preserves := (Invalid.requestStable cfg statement).toSendStable.keeps_setupCommandOnce
      (Invalid.keeps_closeAndReconnect cfg statement bound) cmdText args raw
    refine wp_mono_ok (lost.wp_keeps extends' preserves) ?_
    rintro (again | cmd) after lost
    · exact .inr lost
    · exact .inl lost

/-! ### The execution -/

/-- The statement may be used: it is valid, it is the one that is registered, and it holds a command
that was made since a state and has a handle. -/
def Usable (statement : StatementId) (start world : World σ) : Prop :=
  world.connection.stmt = some statement ∧ ∃ wrap, world.statements statement = some wrap ∧
    wrap.m.valid = true ∧ ∃ id, wrap.m.context = some id ∧ start.nextCommand ≤ id ∧ Live id world

/-- Reading the next result after which no exception is pending: there was no reconnect. -/
theorem wp_readNextResult_leaves (bound : Nat) (id : CommandId) (world : World σ) :
    wp (Connection.readNextResult cfg (closeAndReconnect cfg bound) id)
      (fun _ after => after.xsink = [] → Leaves (some id) world after) (fun _ _ => True)
      (fun _ _ => True) world := by
  rw [Connection.readNextResult, wp_bind, wp_isException]
  split
  · exact fun _ => .refl world
  · rw [wp_bind]
    have reading : ReadingStable cfg id (Leaves (some id)) StopsAnyhow :=
      Leaves.readingStable cfg id
    refine wp_mono (Program.wp_and (reading.keeps_readNextResult world)
      (wp_readNextResult_disconnect id world)) ?_ (fun _ _ _ => trivial) fun _ _ _ => trivial
    rintro ⟨rc, disconnect⟩ read ⟨leaves, pending⟩
    cases disconnect with
    | false => exact fun _ => leaves
    | true =>
      dsimp only
      rw [if_pos rfl, wp_bind]
      refine wp_mono (SinkKept.keeps_closeAndReconnect cfg bound id false read)
        (fun _ after kept quiet => ?_) (fun _ _ _ => trivial) fun _ _ _ => trivial
      exact absurd quiet (kept (pending rfl))

/-- Canceling the command of a statement: it was made earlier. -/
theorem wp_cancelContext_leaves {wrap : ModuleWrap} (numbered : Numbered world)
    (held : world.statements statement = some wrap) :
    wp (cancelContext cfg statement)
      (fun _ after => Leaves none world after ∧ ∀ id ∈ wrap.m.context, id < world.nextCommand)
      (fun _ _ => True) (fun _ _ => True) world := by
  rw [cancelContext, wp_bind, wp_getModuleWrap_some held]
  split
  · rename_i old context
    have reading : ReadingStable cfg old (Leaves none) StopsAnyhow := Leaves.readingStable cfg old
    rw [wp_bind]
    cases there : world.commands old with
    | none =>
      rw [Command.cancel, wp_bind, wp_getCommand]
      exact ⟨fun cmd held => absurd held (by simp [there]), fun _ => trivial⟩
    | some cmd =>
      refine wp_mono (reading.keeps_cancel world) (fun _ _ leaves => ⟨leaves, fun id member => ?_⟩)
        (fun _ _ _ => trivial) fun _ _ _ => trivial
      obtain rfl : old = id := Option.some.inj (context.symm.trans member)
      exact numbered old cmd there
  · rename_i context
    exact ⟨.refl world, fun id member => nomatch context.symm.trans member⟩

/-- The statement was executed without a reconnect. -/
def ExecutedAtOnce (statement : StatementId) (world after : World σ) : Prop :=
  Usable statement world after ∧ ∃ trace, Runs world trace after ∧ .reconnected 0 ∉ trace

section Execution

variable {wrap : ModuleWrap} (bound : Nat)

/-- The command that was set up replaces the one the statement held, and its first result is
read. -/
theorem wp_execSetUp_leaves (held : world.statements statement = some wrap)
    (other : ∀ old ∈ wrap.m.context, old ≠ id) :
    wp (do
        resetContext cfg statement (some id)
        if ← isException then pure (-1 : Int)
        else do
          let _ ← Statement.readNextResult cfg (closeAndReconnect cfg bound) (some id)
          if ← isException then pure (-1) else pure 0)
      (fun value after => value = 0 → after.xsink = [] ∧ Leaves (some id) { world with
        statements := Function.update world.statements statement
          (some { wrap with m := { wrap.m with context := some id } }) } after)
      (fun _ _ => True) (fun _ _ => True) world := by
  have destroys : Keeps (Leaves (some id)) StopsAnyhow
      (Command.destroyOption cfg wrap.m.context) := by
    cases context : wrap.m.context with
    | none => exact keeps_pure ()
    | some old =>
      have isOther : old ∉ some id := fun member => other old context (Option.some.inj member).symm
      exact (Leaves.destroyStable cfg isOther).keeps_destroy
  rw [wp_bind, resetContext, wp_bind, wp_getModuleWrap_some held, wp_bind, modifyStatement,
    wp_modifyModuleWrap, held, Option.map_some]
  refine wp_mono (destroys _) (fun _ destroyed leaves => ?_) (fun _ _ _ => trivial)
    fun _ _ _ => trivial
  rw [wp_bind, wp_isException]
  split
  · exact nofun
  · rw [wp_bind]
    refine wp_mono_ok (wp_readNextResult_leaves bound id destroyed) fun _ read reads => ?_
    rw [wp_bind, wp_isException]
    split
    · exact nofun
    · rename_i quiet
      have quiet : read.xsink = [] := by simpa using quiet
      exact fun _ => ⟨quiet, leaves.trans (reads quiet)⟩

/-- An execution that returns 0: the statement may be used, or the connection was opened again. -/
theorem wp_exec_lost (numbered : Numbered world)
    (registered : world.connection.stmt = some statement)
    (held : world.statements statement = some wrap) (query : Option Text)
    (args : Option (List QoreValue)) (raw : Bool) :
    wp (Statement.exec cfg (closeAndReconnect cfg bound) statement query args raw)
      (fun value after => value = 0 → Lost statement world after ∨
        ExecutedAtOnce statement world after)
      (fun _ _ => True) (fun _ _ => True) world := by
  rw [Statement.exec.eq_def, wp_bind, checkValid, wp_bind, wp_getModuleWrap_some held]
  split
  · rename_i valid
    rw [wp_pure, if_neg (by simp), wp_bind]
    refine wp_mono_ok (wp_cancelContext_leaves numbered held) ?_
    rintro _ canceled ⟨leaves, below⟩
    rw [wp_bind, checkOpen, wp_bind, wp_get]
    split
    · rw [wp_pure]
      cases query with
      | none => trivial
      | some query =>
        rw [wp_bind]
        refine wp_mono_ok (wp_setupCommand_lost (leaves.stmt.trans registered) bound query args raw)
          fun cmd set setUp => ?_
        rcases setUp with lost | ⟨sets, made⟩
        · have extends' := (Extends.stable cfg).requestStable.keeps_execSetUp
            (Extends.keeps_closeAndReconnect cfg bound) statement cmd
          have preserves := (Invalid.requestStable cfg statement).keeps_execSetUp
            (Invalid.keeps_closeAndReconnect cfg statement bound) statement cmd
          exact wp_mono_ok ((Lost.earlier leaves lost).wp_keeps extends' preserves)
            fun _ _ lost _ => .inl lost
        · have before := leaves.trans sets
          have held : set.statements statement = some wrap := before.statements ▸ held
          cases cmd with
          | none =>
            refine wp_bind_any fun _ renewed => ?_
            rw [wp_bind, wp_isException]
            split
            · exact fun zero => absurd zero (by decide)
            · rename_i quiet
              rw [wp_bind, Statement.readNextResult, wp_bind, wp_isException, if_neg quiet]
              trivial
          | some id =>
            obtain ⟨above, live⟩ := made id rfl
            have other : ∀ old ∈ wrap.m.context, old ≠ id := fun old member same =>
              absurd (Nat.lt_of_lt_of_le (below old member) (Nat.le_trans leaves.later above))
                (by simp [same])
            refine wp_mono_ok (wp_execSetUp_leaves bound held other) fun value after ends zero => ?_
            obtain ⟨quiet, reads⟩ := ends zero
            have quiet' : set.xsink = [] := by
              by_contra raised
              exact reads.sink raised quiet
            refine .inr ⟨⟨reads.stmt.trans (before.stmt.trans registered), _,
              (congrFun reads.statements statement).trans (Function.update_self _ _ _), valid,
              id, rfl, Nat.le_trans leaves.later above, reads.live (live quiet')⟩, ?_⟩
            obtain ⟨first, ran, unbroken⟩ := before.ran
            obtain ⟨second, ran', unbroken'⟩ := reads.ran
            have sameLog : Runs set second after := ⟨ran'.depth, ran'.log⟩
            exact ⟨first ++ second, ran.trans sameLog, by simp [unbroken, unbroken']⟩
    · trivial
  · rw [wp_bind, wp_raiseException]
    exact fun zero => absurd zero (by decide)

end Execution

/-- The method `exec` of a statement that is registered. -/
theorem wp_execMethod (numbered : Numbered world)
    (registered : world.connection.stmt = some statement)
    (present : (world.statements statement).isSome) :
    wp (DBModuleWrap.exec cfg statement)
      (fun value after => (value = 0 ↔ after.xsink = []) ∧
        (value = 0 → Lost statement world after ∨ ExecutedAtOnce statement world after))
      (fun _ _ => True) (fun _ _ => True) world := by
  obtain ⟨wrap, held⟩ := Option.isSome_iff_exists.mp present
  rw [DBModuleWrap.exec, wp_tryCatch, DBModuleWrap.execBody, wp_bind, DBModuleWrap.moduleWrap,
    wp_bind, wp_get, held]
  rw [wp_pure, wp_bind, wp_getModuleWrap_some held]
  refine wp_mono (Program.wp_and (wp_exec_value _ _ _ _ world)
    (wp_exec_lost cfg.fuel numbered registered held _ _ _)) (fun _ _ both => both)
    (fun error failed _ => ?_) fun _ _ _ => trivial
  rw [wp_bind, Error.raise, wp_bind, wp_isException, wp_when, wp_raiseException]
  have failure : (-1 : Int) ≠ 0 := by decide
  refine ⟨fun _ => ⟨iff_of_false failure (List.cons_ne_nil _ _), fun zero => absurd zero failure⟩,
    fun raised => ⟨iff_of_false failure fun quiet => ?_, fun zero => absurd zero failure⟩⟩
  simp [quiet] at raised

/-- The steps of a run are in the log. -/
theorem Runs.unique {first second : List Step} (ran : Runs world first after)
    (ran' : Runs world second after) : first = second := by
  obtain ⟨new, log, rfl⟩ := ran.log
  obtain ⟨new', log', rfl⟩ := ran'.log
  rw [List.append_cancel_right (log.symm.trans log')]

/-- The connection was lost and opened again, and the command that was sent again raised nothing. -/
def Resent (world after : World σ) : Prop := Reestablished world after ∧ after.xsink = []

/-- What an execution that returns a value has to leave: after 0 the statement may be used, and a
command that was sent again with success gives 0. -/
structure KeepsUsable (statement : StatementId) (world after : World σ) (value : Int) : Prop where
  usable : value = 0 → Usable statement world after
  succeeds : Resent world after → value = 0

section Method

variable {allowed : World σ → Call → Prop} (reached : Reachable cfg allowed world)
  (registered : world.connection.stmt = some statement)
  (present : (world.statements statement).isSome) (xsink : List QoreException) {value : Int}
  (ran : DBModuleWrap.exec cfg statement { world with xsink := xsink } = (.ok value, after))
include reached registered present ran

theorem exec_ends : (value = 0 ↔ after.xsink = []) ∧
    (value = 0 → Lost statement world after ∨ ExecutedAtOnce statement world after) := by
  have executed : wp (DBModuleWrap.exec cfg statement) _ _ _ { world with xsink := xsink } :=
    wp_execMethod reached.numbered registered present
  obtain ⟨isZero, ends⟩ := (wp_iff_forall.mp executed).1 _ _ ran
  refine ⟨isZero, fun zero => ?_⟩
  rcases ends zero with ⟨⟨trace, ran, member⟩, held, invalid⟩ | ⟨usable, trace, ran, unbroken⟩
  · exact .inl ⟨⟨trace, ⟨ran.depth, ran.log⟩, member⟩, held, invalid⟩
  · exact .inr ⟨usable, trace, ⟨ran.depth, ran.log⟩, unbroken⟩

/-- A command that is sent again with success makes the execution return 0, and leaves a statement
that may not be used. -/
theorem invalid_of_resent (resent : Resent world after) : value = 0 ∧ Invalid statement after := by
  obtain ⟨isZero, ends⟩ := exec_ends reached registered present xsink ran
  have zero : value = 0 := isZero.mpr resent.2
  refine ⟨zero, ?_⟩
  rcases ends zero with lost | ⟨-, trace, ran, unbroken⟩
  · exact lost.invalid
  · obtain ⟨trace', ran', member⟩ := resent.1
    exact absurd (ran'.unique ran ▸ member) unbroken

/-- A statement that was never executed holds no command, and its first execution does not succeed
after a reconnect: invalidating it throws before the connection is closed. -/
theorem holdsCommand_of_reestablished (zero : value = 0)
    (reestablished : Reestablished world after) :
    HoldsCommand statement world := by
  rcases (exec_ends reached registered present xsink ran).2 zero with lost | ⟨-, trace, ran,
    unbroken⟩
  · exact lost.held
  · obtain ⟨trace', ran', member⟩ := reestablished
    exact absurd (ran'.unique ran ▸ member) unbroken

end Method

/-- A ct-lib on which one send fails, and the connection is down whenever it is asked for. The state
is the number of sends. No result has rows. -/
def CtLib.losing (lost : Nat) : CtLib Nat where
  answer call sends := match call with
    | .send _ => ({ code := if sends = lost then .fail else .succeed }, sends + 1)
    | .conStatus => ({ connected := false }, sends)
    | .results _ => ({ code := .endResults }, sends)
    | _ => ({}, sends)
  activeTransaction _ := false

/-- The configuration of the samples: the second send fails. -/
abbrev losingConfig : Config Nat := Config.sample (CtLib.losing 1) true 9

/-- A statement that is prepared. -/
def losingPrepared : World Nat :=
  (StatementOp.run losingConfig 0 (.prepare (text "select 1") none) (World.opened 0)).2

/-- The statement after its first execution. -/
def losingExecuted : World Nat := (DBModuleWrap.exec losingConfig 0 losingPrepared).2

theorem losingPrepared_reachable : Reachable losingConfig (fun _ _ => True) losingPrepared := by
  have start : (World.opened 0).IsStart := ⟨rfl, rfl, rfl, rfl⟩
  let call : Call := ⟨[], .statement 0 (.prepare (text "select 1") none)⟩
  have prepared : call.run losingConfig (World.opened 0) = (.ok (), losingPrepared) := rfl
  exact .call (.start start) trivial (.inl prepared)

theorem losingExecuted_run : DBModuleWrap.exec losingConfig 0 { losingPrepared with xsink := [] } =
    (.ok 0, losingExecuted) := rfl

theorem losingExecuted_reachable : Reachable losingConfig (fun _ _ => True) losingExecuted := by
  have executed : Call.run losingConfig ⟨[], .statement 0 .exec⟩ losingPrepared =
      (.ok (), losingExecuted) := rfl
  exact .call losingPrepared_reachable trivial (.inl executed)

end Sybase
