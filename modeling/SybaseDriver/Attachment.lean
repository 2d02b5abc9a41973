/-
This file proves that the registered statement can be disconnected in every state that is reached.
It has private data and is valid, and in a debug build the command it holds has its handle: a
command loses its handle only where it is destroyed or disconnected, and where a command is
disconnected the registered statement is invalidated right after it.
-/

import SybaseDriver.Ownership

namespace Sybase

open Program Connection

variable {σ : Type} {cfg : Config σ} {live : Prop} {world after : World σ} {id : CommandId}
  {statement : StatementId}

/-! ### Attached commands -/

/-- The registered statement has private data and is valid, and the command it holds was made. If
commands have to be live, it has its handle unless it is destroyed. -/
def Attached (live : Prop) (world : World σ) : Prop :=
  ∀ statement, world.connection.stmt = some statement → ∃ wrap,
    world.statements statement = some wrap ∧ wrap.m.valid = true ∧
    ∀ id, wrap.m.context = some id → id < world.nextCommand ∧
      (live → ∀ cmd, world.commands id = some cmd → cmd.mCmd.isSome = true)

/-- The command was made and holds its handle. -/
def Handed (id : CommandId) (world : World σ) : Prop :=
  id < world.nextCommand ∧ ∃ cmd, world.commands id = some cmd ∧ cmd.mCmd.isSome = true

/-- The process may stop in any way. -/
def StopsAttached (live : Prop) : Halt → World σ → World σ → Prop :=
  StopsHolding (Attached live) fun _ _ => True

namespace Attached

theorem of_none (none : world.connection.stmt = none) : Attached live world :=
  fun _ registered => absurd (none.symm.trans registered) (by simp)

theorem weaken (attached : Attached live world) : Attached False world := by
  intro statement registered
  obtain ⟨wrap, held, valid, holds⟩ := attached statement registered
  exact ⟨wrap, held, valid, fun id context => ⟨(holds id context).1, False.elim⟩⟩

/-- The statements are as they were, and the commands that were made have the handles they had. -/
theorem of_kept (attached : Attached live world)
    (stmt : after.connection.stmt = world.connection.stmt)
    (statements : after.statements = world.statements)
    (later : world.nextCommand ≤ after.nextCommand)
    (commands : live → ∀ id < world.nextCommand, ∀ cmd, after.commands id = some cmd →
      ∃ before, world.commands id = some before ∧ before.mCmd = cmd.mCmd) :
    Attached live after := by
  intro statement registered
  obtain ⟨wrap, held, valid, holds⟩ := attached statement (stmt ▸ registered)
  refine ⟨wrap, statements ▸ held, valid, fun id context => ?_⟩
  obtain ⟨made, handle⟩ := holds id context
  refine ⟨Nat.lt_of_lt_of_le made later, fun isLive cmd there => ?_⟩
  obtain ⟨before, present, same⟩ := commands isLive id made cmd there
  exact same ▸ handle isLive before present

theorem of_eq (attached : Attached live world)
    (stmt : after.connection.stmt = world.connection.stmt)
    (statements : after.statements = world.statements) (commands : after.commands = world.commands)
    (later : world.nextCommand ≤ after.nextCommand) : Attached live after :=
  attached.of_kept stmt statements later fun _ _ _ cmd there => ⟨cmd, commands ▸ there, rfl⟩

/-- A change of commands that keeps their handles, if they have to be live. -/
theorem change (attached : Attached live world) {change : Command → Command}
    (same : live → ∀ cmd, (change cmd).mCmd = cmd.mCmd) : Attached live { world with
      commands := Function.update world.commands id ((world.commands id).map change) } := by
  refine attached.of_kept rfl rfl (Nat.le_refl _) fun isLive other _ cmd there => ?_
  by_cases isId : other = id
  · subst isId
    simp only [Function.update_self, Option.map_eq_some_iff] at there
    obtain ⟨before, present, rfl⟩ := there
    exact ⟨before, present, (same isLive before).symm⟩
  · exact ⟨cmd, by simpa [isId] using there, rfl⟩

/-- A change of private data that keeps what is valid, and the command that is held. -/
theorem changeWrap (attached : Attached live world) {change : ModuleWrap → ModuleWrap}
    (same : ∀ wrap, (change wrap).m.valid = wrap.m.valid ∧
      (change wrap).m.context = wrap.m.context) : Attached live { world with
      statements := Function.update world.statements statement
        ((world.statements statement).map change) } := by
  intro other registered
  obtain ⟨wrap, held, valid, holds⟩ := attached other registered
  by_cases own : other = statement
  · subst own
    exact ⟨change wrap, by simp [held], (same wrap).1.trans valid, fun id context =>
      holds id ((same wrap).2.symm.trans context)⟩
  · exact ⟨wrap, by simp [own, held], valid, holds⟩

/-- A statement takes over a command that holds its handle. -/
theorem holding {cmd : Option CommandId} (attached : Attached live world)
    (handed : ∀ id, cmd = some id → Handed id world) : Attached live { world with
      statements := Function.update world.statements statement
        ((world.statements statement).map fun wrap =>
          { wrap with m := { wrap.m with context := cmd } }) } := by
  intro other registered
  obtain ⟨wrap, held, valid, holds⟩ := attached other registered
  by_cases own : other = statement
  · subst own
    refine ⟨{ wrap with m := { wrap.m with context := cmd } }, by simp [held], valid,
      fun id context => ?_⟩
    obtain ⟨made, cmd', present, handle⟩ := handed id context
    refine ⟨made, fun _ other there => ?_⟩
    rw [← Option.some.inj (present.symm.trans there)]
    exact handle
  · exact ⟨wrap, by simp [own, held], valid, holds⟩

/-- The private data of a statement that is not registered are created or removed. -/
theorem rewrapped (attached : Attached live world) (wrap : Option ModuleWrap)
    (other : world.connection.stmt ≠ some statement) : Attached live { world with
      statements := Function.update world.statements statement wrap } := by
  intro registered same
  obtain ⟨held, has, rest⟩ := attached registered same
  have different : registered ≠ statement := fun isStatement => other (isStatement ▸ same)
  exact ⟨held, by simp [different, has], rest⟩

theorem allocated (attached : Attached live world) : Attached live (world.allocated cfg) := by
  refine attached.of_kept rfl rfl (Nat.le_succ _) fun _ other made cmd there => ?_
  have older : other ≠ world.nextCommand := Nat.ne_of_lt made
  exact ⟨cmd, by simpa [World.allocated, older] using there, rfl⟩

theorem removed (attached : Attached live world) (id : CommandId) :
    Attached live (world.removed id) := by
  refine attached.of_kept rfl rfl (Nat.le_refl _) fun _ other _ cmd there => ?_
  by_cases isId : other = id
  · simp [World.removed, isId] at there
  · exact ⟨cmd, by simpa [World.removed, isId] using there, rfl⟩

/-! ### Commands -/

theorem baseStable : BaseStable (Preserves (Attached (σ := σ) live)) (StopsAttached live) where
  raise _ _ _ attached := attached.of_eq rfl rfl rfl (Nat.le_refl _)
  discard _ attached := attached.of_eq rfl rfl rfl (Nat.le_refl _)
  halts _ _ _ _ := trivial

theorem readingStable (cfg : Config σ) (live : Prop) (id : CommandId) :
    ReadingStable cfg id (Preserves (Attached live)) (StopsAttached live) where
  toBaseStable := baseStable
  call _ _ _ _ _ _ attached := attached.of_eq rfl rfl rfl (Nat.le_refl _)
  value _ _ _ attached := attached.of_eq rfl rfl rfl (Nat.le_refl _)
  modify _ _ same attached := attached.change fun _ cmd => (same cmd).1

theorem bindStable (cfg : Config σ) (live : Prop) (id : CommandId) :
    BindStable cfg id (Preserves (Attached live)) (StopsAttached live) where
  toBaseStable := baseStable
  bind _ _ _ attached := attached.of_eq rfl rfl rfl (Nat.le_refl _)
  query _ _ attached := attached.change fun _ _ => rfl

/-- A call changes nothing that is attached. -/
theorem keeps_call (cfg : Config σ) (live : Prop) (site : Site) (call : CtCall) :
    Keeps (Preserves (Attached live)) (StopsAttached live) (ctCallAt cfg site call) :=
  fun _ attached => attached.of_eq rfl rfl rfl (Nat.le_refl _)

theorem keeps_send (cfg : Config σ) (live : Prop) (id : CommandId) :
    Keeps (Preserves (Attached live)) (StopsAttached live) (Command.send cfg id) :=
  baseStable.keeps_getCommand_then fun _ => keeps_bind (keeps_call cfg live .other _) fun _ =>
    keeps_when _ fun _ => baseStable.keeps_doException _ _

/-- Where commands need not be live, one may be disconnected. -/
theorem wp_cancelDisconnect (attached : Attached False world) (id : CommandId) :
    wp (Command.cancelDisconnect cfg id) (fun _ after => Attached False after) noThrow
      (fun _ _ => True) world := by
  cases held : world.commands id with
  | none =>
    rw [Command.cancelDisconnect, wp_bind, wp_getCommand]
    exact ⟨fun _ found => absurd (held.symm.trans found) (by simp), fun _ => trivial⟩
  | some cmd =>
    rw [Sybase.wp_cancelDisconnect held]
    refine ⟨fun _ => trivial, fun _ => ?_⟩
    have canceled : Attached False (world.answered cfg.lib .cancelDisconnect (.cancel cmd.mCmd)) :=
      attached.of_eq rfl rfl rfl (Nat.le_refl _)
    exact canceled.change False.elim

/-- What is destroyed is not held in another state. -/
theorem keeps_destroy (cfg : Config σ) (live : Prop) (id : CommandId) :
    Keeps (Preserves (Attached live)) (StopsAttached live) (Command.destroy cfg id) := by
  refine keeps_preserves.mpr fun world attached => ?_
  cases held : world.commands id with
  | none =>
    rw [Command.destroy, wp_bind, wp_tryCatch, Command.clear, wp_bind, wp_getCommand]
    exact ⟨fun _ held' => absurd (held.symm.trans held') (by simp), fun _ => trivial⟩
  | some cmd =>
    have canceled : Attached live (world.canceled cfg cmd) := by
      rw [World.canceled]
      split
      · exact attached.of_eq rfl rfl rfl (Nat.le_refl _)
      · exact attached
    rw [wp_destroy held]
    split
    · split
      · trivial
      · refine canceled.of_kept rfl rfl (Nat.le_refl _) fun _ other _ cmd' there => ?_
        by_cases isId : other = id
        · simp [World.removed, isId] at there
        · exact ⟨cmd', by simpa [World.removed, World.dropped, isId] using there, rfl⟩
    · exact attached.removed id

/-! ### Invalidating -/

/-- Invalidating the registered statement leaves the other statements as they were, and throws only
where the statement holds no command. -/
theorem wp_invalidate (attached : Attached False world)
    (registered : world.connection.stmt = some statement) :
    wp (invalidate cfg statement)
      (fun _ after => ∀ other ≠ statement, after.statements other = world.statements other)
      (fun _ after => Attached live after) (fun _ _ => True) world := by
  obtain ⟨wrap, held, valid, -⟩ := attached statement registered
  have noted : (world.record .other (.invalidate statement)).statements statement = some wrap :=
    held
  rw [invalidate, wp_bind, wp_modify, wp_bind, wp_getModuleWrap_some noted, wp_bind, wp_assert]
  refine ⟨fun _ => trivial, fun _ => ?_⟩
  cases context : wrap.m.context with
  | none =>
    intro other same
    obtain rfl := Option.some.inj (registered.symm.trans same)
    exact ⟨wrap, held, valid, fun id holds => absurd (context.symm.trans holds) (by simp)⟩
  | some id =>
    rw [wp_bind]
    cases there : world.commands id with
    | none =>
      rw [Command.cancelDisconnect, wp_bind, wp_getCommand]
      exact ⟨fun _ found => absurd (there.symm.trans found) (by simp), fun _ => trivial⟩
    | some cmd =>
      rw [Sybase.wp_cancelDisconnect
        (show (world.record .other (.invalidate statement)).commands id = some cmd from there)]
      refine ⟨fun _ => trivial, fun _ => ?_⟩
      rw [modifyStatement, wp_modifyModuleWrap]
      exact fun other different => Function.update_of_ne different _ _

/-- Nothing is registered where invalidating returns. -/
theorem wp_invalidateStatement (attached : Attached False world) :
    wp (invalidateStatement cfg) (fun _ after => after.connection.stmt = none)
      (fun _ after => Attached live after) (fun _ _ => True) world := by
  rw [invalidateStatement, wp_bind, wp_get]
  split
  · assumption
  · rename_i statement registered
    rw [wp_bind]
    exact wp_mono_ok (attached.wp_invalidate registered) fun _ _ _ => rfl

theorem keeps_invalidateStatement (cfg : Config σ) (live : Prop) :
    Keeps (Preserves (Attached live)) (StopsAttached live) (invalidateStatement cfg) :=
  keeps_preserves.mpr fun _ attached =>
    wp_mono attached.weaken.wp_invalidateStatement (fun _ _ none => of_none none)
      (fun _ _ attached => attached) fun _ _ _ => trivial

/-- The command that is disconnected may be that of the registered statement, which is invalidated
right after it. -/
theorem keeps_closeConnection (cfg : Config σ) (live : Prop) (cmd : CommandId) :
    Keeps (Preserves (Attached live)) (StopsAttached live) (closeConnection cfg cmd) := by
  refine keeps_preserves.mpr fun world attached => ?_
  rw [closeConnection, wp_bind]
  refine wp_mono (attached.weaken.wp_cancelDisconnect cmd) (fun _ canceled weak => ?_)
    (fun _ _ absent => absent.elim) fun _ _ _ => trivial
  rw [wp_bind]
  refine wp_mono weak.wp_invalidateStatement (fun _ closed none => ?_)
    (fun _ _ attached => attached) fun _ _ _ => trivial
  exact keeps_preserves.mp (baseStable.keeps_shut (fun call _ _ => keeps_call cfg live .other call)
    fun _ _ same attached => attached.of_eq same rfl rfl (Nat.le_refl _)) _ (of_none none)

/-! ### Requests -/

theorem executeStable (cfg : Config σ) (live : Prop) :
    ExecuteStable cfg (Preserves (Attached live)) (StopsAttached live) where
  toBaseStable := baseStable
  reading := readingStable cfg live
  creates _ := wp_create.mpr fun attached => attached.allocated
  binds id := (bindStable cfg live id).keeps_bindQuery
  sends := keeps_send cfg live
  pings := keeps_bind (keeps_call cfg live .other _) fun _ => keeps_pure _
  destroys := keeps_destroy cfg live
  invalidates := keeps_invalidateStatement cfg live

theorem reopenStable (cfg : Config σ) (live : Prop) :
    ReopenStable cfg (Preserves (Attached live)) (StopsAttached live) where
  toBaseStable := baseStable
  call _ call _ := keeps_call cfg live .other call _
  connection _ _ _ same _ attached := attached.of_eq same rfl rfl (Nat.le_refl _)
  closes := keeps_closeConnection cfg live
  lost _ _ attached := attached.of_eq rfl rfl rfl (Nat.le_refl _)
  reconnected _ _ attached := attached.of_eq rfl rfl rfl (Nat.le_refl _)
  aborts _ attached := attached.of_eq rfl rfl rfl (Nat.le_refl _)
  nested keeps := by
    refine keeps_preserves.mpr fun world attached => (wp_nested _).mpr ?_
    refine wp_mono (keeps_preserves.mp keeps { world with depth := world.depth + 1 }
      (attached.of_eq rfl rfl rfl (Nat.le_refl _))) ?_ ?_ fun _ _ _ => trivial
    · exact fun _ _ attached => attached.of_eq rfl rfl rfl (Nat.le_refl _)
    · exact fun _ _ attached => attached.of_eq rfl rfl rfl (Nat.le_refl _)

theorem keeps_topReconnect (cfg : Config σ) (live : Prop) (cmd : CommandId)
    (tryReconnect : Bool) : Keeps (Preserves (Attached live)) (StopsAttached live)
      (topReconnect cfg cmd tryReconnect) :=
  (reopenStable cfg live).keeps_closeAndReconnect
    (fun tryReconnect reconnects => (reopenStable cfg live).keeps_reopenConnection
      (fun _ attached => attached.of_eq rfl rfl rfl (Nat.le_refl _))
      (fun query args singleRow => (executeStable cfg live).keeps_execReadOutput reconnects query
        args true true false singleRow) tryReconnect) cfg.fuel cmd tryReconnect

section SettingUp

variable {reconnect : Reconnect σ}

/-- A command that was sent holds its handle: `ct_send` fails without one. -/
theorem wp_sendOrReconnect_handed (made : id < world.nextCommand) :
    wp (sendOrReconnect cfg reconnect id) (fun sent after => sent = true → Handed id after)
      (fun _ _ => True) (fun _ _ => True) world := by
  rw [sendOrReconnect, wp_tryCatch, wp_bind, Command.send, wp_bind, wp_getCommand]
  refine ⟨fun cmd held => ?_, fun _ => trivial⟩
  rw [wp_bind, wp_ctCall, wp_when, wp_doException]
  refine ⟨fun _ => ?_, fun succeeded _ => ⟨made, cmd, held, ?_⟩⟩
  · rw [ping, wp_bind, wp_bind, wp_ctCall, wp_pure]
    split
    · trivial
    · rw [wp_bind]
      refine wp_mono_ok (wp_trivial _ _) fun result _ _ => ?_
      split
      · trivial
      · simp
  · cases handle : cmd.mCmd with
    | some handle => rfl
    | none => exact absurd (by rw [handle]; simp [CtLib.reply, CtCall.command?]) succeeded

theorem wp_setupCommandOnce_handed (cmdText : Text) (args : Option (List QoreValue)) (raw : Bool)
    (world : World σ) : wp (setupCommandOnce cfg reconnect cmdText args raw)
      (fun result after => ∀ id, result = .inr (some id) → Handed id after) (fun _ _ => True)
      (fun _ _ => True) world := by
  rw [setupCommandOnce, wp_bind]
  refine wp_mono_ok (wp_trivial _ _) fun result scanned _ => ?_
  cases result with
  | none => simp
  | some query =>
    have base : BaseStable (Preserves fun world : World σ => scanned.nextCommand <
        world.nextCommand) fun _ _ _ => True :=
      { raise := fun _ _ _ made => made, discard := fun _ made => made
        halts := fun _ _ _ => trivial }
    have binds : BindStable cfg scanned.nextCommand (Preserves fun world : World σ =>
        scanned.nextCommand < world.nextCommand) fun _ _ _ => True :=
      { base with
        bind := fun _ _ _ made => made
        query := fun _ _ made => made }
    rw [wp_bind, wp_create, wp_bind, wp_onThrow, wp_bind]
    refine wp_mono (binds.keeps_bindQuery query args _) (fun _ bound made => ?_)
      (fun _ _ _ => wp_trivial _ _) fun _ _ _ => trivial
    refine wp_mono (wp_sendOrReconnect_handed (made (Nat.lt_succ_self _)))
      (fun sent after handed => ?_) (fun _ _ _ => wp_trivial _ _) fun _ _ _ => trivial
    split
    · rename_i isSent
      rintro id same
      cases same
      exact handed isSent
    · rw [wp_bind]
      exact wp_mono_ok (wp_trivial _ _) fun _ _ _ => by simp

/-- A command that is set up holds its handle. -/
theorem wp_setupCommand_handed (cmdText : Text) (args : Option (List QoreValue)) (raw : Bool)
    (world : World σ) : wp (setupCommand cfg reconnect cmdText args raw)
      (fun cmd after => ∀ id, cmd = some id → Handed id after) (fun _ _ => True)
      (fun _ _ => True) world := by
  refine wp_iterate (fun _ _ => True) (fun _ _ _ => trivial) (fun _ state _ => ?_) _ _ _ trivial
  refine wp_mono_ok (wp_setupCommandOnce_handed cmdText args raw state) ?_
  rintro (again | cmd) after handed
  · trivial
  · exact fun id same => handed id (by rw [same])

end SettingUp

/-! ### Statements -/

theorem statementStable (cfg : Config σ) (live : Prop) :
    StatementStable cfg (Preserves (Attached live)) (StopsAttached live) where
  toBaseStable := baseStable
  reading := readingStable cfg live
  wraps _ _ _ same attached := attached.changeWrap same

/-- The command that the statement held before is destroyed. -/
theorem wp_resetContext {cmd : Option CommandId} (attached : Attached live world)
    (handed : ∀ id, cmd = some id → Handed id world) (statement : StatementId) :
    wp (Statement.resetContext cfg statement cmd) (fun _ after => Attached live after)
      (fun _ after => Attached live after) (fun _ _ => True) world := by
  rw [Statement.resetContext, wp_bind, wp_getModuleWrap]
  refine ⟨fun wrap _ => ?_, fun _ => trivial⟩
  rw [wp_bind, modifyStatement, wp_modifyModuleWrap]
  exact keeps_preserves.mp ((executeStable cfg live).keeps_destroyOption wrap.m.context) _
    (attached.holding handed)

/-- A statement takes over a command that was set up. -/
theorem keeps_exec (cfg : Config σ) (live : Prop) (statement : StatementId) (query : Option Text)
    (args : Option (List QoreValue)) (raw : Bool) :
    Keeps (Preserves (Attached live)) (StopsAttached live)
      (Statement.exec cfg (topReconnect cfg) statement query args raw) := by
  have base : BaseStable (Preserves (Attached (σ := σ) live)) (StopsAttached live) := baseStable
  have stable := executeStable cfg live
  refine keeps_bind (base.keeps_checkValid statement) fun invalid => ?_
  split
  · exact keeps_pure _
  · refine keeps_bind (stable.keeps_cancelContext statement) fun _ => ?_
    refine keeps_bind base.keeps_checkOpen fun _ => ?_
    split
    · exact base.keeps_undefined
    · rename_i query
      refine keeps_preserves.mpr fun world attached => (wp_bind _ _).mpr ?_
      have setups := stable.keeps_setupCommand (keeps_topReconnect cfg live) query args raw world
      refine wp_mono (Program.wp_and setups (wp_setupCommand_handed query args raw world))
        (fun cmd after both => ?_) (fun _ _ both => both.1 attached) fun _ _ _ => trivial
      refine (wp_bind _ _).mpr (wp_mono_ok ((both.1 attached).wp_resetContext both.2 statement)
        fun _ reset attached => ?_)
      have reads := stable.keeps_readNextResult (keeps_topReconnect cfg live)
      refine keeps_preserves.mp (keeps_bind keeps_isException fun raised => ?_) _ attached
      split
      · exact keeps_pure _
      · refine keeps_bind (stable.keeps_readNextResultOf reads cmd) fun _ =>
          keeps_bind keeps_isException fun raised => ?_
        split
        · exact keeps_pure _
        · exact keeps_pure _

/-- A statement that has just got its private data is registered. -/
theorem wp_registerStatement (attached : Attached live world)
    (created : world.statements statement = some DBModuleWrap.create)
    (other : world.connection.stmt ≠ some statement) :
    wp (registerStatement cfg statement) (fun _ after => Attached live after)
      (fun _ after => Attached live after) (fun _ _ => True) world := by
  have registers (after : World σ) (held : after.statements statement = some DBModuleWrap.create) :
      Attached live { after with connection := { after.connection with stmt := some statement } } :=
    fun registered same => by
      obtain rfl := Option.some.inj same
      exact ⟨DBModuleWrap.create, held, rfl, nofun⟩
  rw [registerStatement, wp_bind, wp_get]
  split
  · exact registers world created
  · rename_i registered same
    rw [wp_bind]
    refine wp_mono_ok (attached.weaken.wp_invalidate same) fun _ after others => ?_
    refine registers after ((others statement fun isRegistered => ?_).trans created)
    exact other (isRegistered ▸ same)

theorem keeps_moduleWrap (cfg : Config σ) (live : Prop) (statement : StatementId) :
    Keeps (Preserves (Attached live)) (StopsAttached live)
      (DBModuleWrap.moduleWrap cfg statement) := by
  refine keeps_preserves.mpr fun world attached => ?_
  rw [DBModuleWrap.moduleWrap, wp_bind, wp_get]
  split
  · exact attached
  · rename_i absent
    have other : world.connection.stmt ≠ some statement := fun registered => by
      obtain ⟨wrap, held, -⟩ := attached statement registered
      exact absurd (absent.symm.trans held) (by simp)
    rw [wp_bind, wp_modify, wp_bind, Statement.checkOpen, wp_bind, wp_get]
    split
    · exact (attached.rewrapped _ other).wp_registerStatement (Function.update_self _ _ _) other
    · trivial

theorem keeps_close (cfg : Config σ) (live : Prop) (statement : StatementId) :
    Keeps (Preserves (Attached live)) (StopsAttached live) (DBModuleWrap.close cfg statement) := by
  refine keeps_preserves.mpr fun world attached => ?_
  rw [DBModuleWrap.close, wp_bind, wp_getModuleWrap]
  refine ⟨fun wrap held => ?_, fun _ => trivial⟩
  have removes : ∀ state : World σ, Attached live state →
      state.connection.stmt ≠ some statement → wp (do
        modify fun world => { world with
          statements := Function.update world.statements statement none }
        Command.destroyOption cfg wrap.m.context
        pure (0 : Int)) (fun _ after => Attached live after) (fun _ after => Attached live after)
        (fun _ _ => True) state := fun state attached other =>
    keeps_preserves.mp (keeps_bind ((executeStable cfg live).keeps_destroyOption _) fun _ =>
      keeps_pure _) _ (attached.rewrapped none other)
  rw [wp_bind, wp_when]
  refine ⟨fun _ => ?_, fun invalid => removes world attached fun registered => ?_⟩
  · rw [wp_bind, Statement.checkOpen, wp_bind, wp_get]
    split
    · rw [wp_pure, deregisterStatement, wp_bind, wp_get, wp_bind, wp_assert]
      refine ⟨fun _ => trivial, fun _ => ?_⟩
      rw [wp_modifyConnection]
      exact removes _ (of_none rfl) (by simp)
    · trivial
  · obtain ⟨wrap', held', valid, -⟩ := attached statement registered
    obtain rfl := Option.some.inj (held.symm.trans held')
    exact invalid valid

/-! ### Operations -/

theorem directStable (cfg : Config σ) (live : Prop) :
    DirectStable cfg (Preserves (Attached live)) (StopsAttached live) where
  toBaseStable := baseStable
  call _ site call _ _ := keeps_call cfg live site call _
  alloc _ attached := attached.of_eq rfl rfl rfl (Nat.le_refl _)

theorem partsStable (cfg : Config σ) (live : Prop) :
    PartsStable cfg (Preserves (Attached live)) (StopsAttached live) where
  toStatementStable := statementStable cfg live
  requests := (executeStable cfg live).keeps_execReadOutput (keeps_topReconnect cfg live)
  commits := (directStable cfg live).keeps_commit
  rollbacks := (directStable cfg live).keeps_rollback
  nexts := (statementStable cfg live).keeps_next
    ((executeStable cfg live).keeps_readNextResult (keeps_topReconnect cfg live))
  registers := keeps_moduleWrap cfg live
  closes := keeps_close cfg live
  executes := keeps_exec cfg live

theorem openStable (cfg : Config σ) (live : Prop) :
    OpenStable cfg (Preserves (Attached live)) (StopsAttached live) where
  toBaseStable := baseStable
  inits := (reopenStable cfg live).toSessionStable.keeps_init
    ((reopenStable cfg live).toSessionStable.keeps_setEncoding
      (fun _ attached => attached.of_eq rfl rfl rfl (Nat.le_refl _)) fun query args singleRow =>
        (executeStable cfg live).keeps_execReadOutput (keeps_topReconnect cfg live) query args true
          true false singleRow)
  destroys := baseStable.keeps_destroyConnection (keeps_invalidateStatement cfg live)
    (fun call _ _ => keeps_call cfg live .other call) fun _ _ => trivial
  connect _ _ := of_none rfl
  disconnect _ _ := of_none rfl
  setOpen _ _ attached := attached.of_eq rfl rfl rfl (Nat.le_refl _)

/-- The registered statement is attached in every state that is reached. -/
theorem of_reachable {allowed : World σ → Call → Prop} (live : Prop)
    (reached : Reachable cfg allowed world) : Attached live world :=
  reached.kept (fun op => (partsStable cfg live).keeps_op (openStable cfg live) op)
    (fun _ start => of_none start.stmt) fun _ _ attached =>
      attached.of_eq rfl rfl rfl (Nat.le_refl _)

end Attached

end Sybase
