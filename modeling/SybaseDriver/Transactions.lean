/-
This file proves how a request ends that loses the connection in a transaction. The
lost connection is closed and opened again with the exception pending that says so,
and the request ends in an error. There are two ways in which it does not, but stops
the process: a cancel in the destructor of a command fails, or the statement that is
registered is the one whose first result is read, so that its command is disconnected
twice.
-/

import SybaseDriver.Attachment
import SybaseDriver.Ending
import SybaseDriver.LostExecution

namespace Sybase

open Program Connection Command

variable {cfg : Config (List Reply)} {world middle after : World (List Reply)} {limit : Nat}
  {id n : CommandId} {statement : StatementId}

/-! ### Steps before a loss -/

/-- A step that finds the connection down or lost. -/
def Step.isLoss : Step → Bool
  | .ping up => !up
  | .lost _ => true
  | _ => false

/-- No loss is found in the steps. -/
def Lossless (world after : World (List Reply)) : Prop :=
  ∃ trace, Runs world trace after ∧ ∀ step ∈ trace, step.isLoss = false

theorem Lossless.trans (first : Lossless world middle) (second : Lossless middle after) :
    Lossless world after := by
  obtain ⟨trace, ran, kept⟩ := first
  obtain ⟨trace', ran', kept'⟩ := second
  exact ⟨trace ++ trace', ran.trans ran', fun step member =>
    (List.mem_append.mp member).elim (kept step) (kept' step)⟩

theorem Lossless.of_silent (silent : Silent world after) : Lossless world after :=
  ⟨[], silent, fun _ member => absurd member List.not_mem_nil⟩

theorem Lossless.not_lostInside {trace : List Step} {inTransaction : Bool}
    (lossless : Lossless world after) (ran : Runs world trace after) :
    ¬LostInside inTransaction trace := by
  obtain ⟨trace', ran', kept⟩ := lossless
  obtain rfl := ran.unique ran'
  rintro ⟨-, down | ⟨retry, lost⟩⟩
  · exact Bool.noConfusion (kept _ down)
  · exact Bool.noConfusion (kept _ lost)

/-- The statements, the connection and the numbers of the commands are as they were, every command
has the handle it had, and the script has no more answers left. -/
structure Steady (world after : World (List Reply)) : Prop where
  handles : ∀ id, (after.commands id).map Command.mCmd = (world.commands id).map Command.mCmd
  statements : after.statements = world.statements
  connection : after.connection = world.connection
  nextCommand : after.nextCommand = world.nextCommand
  short : after.env.length ≤ world.env.length

namespace Steady

theorem of_eq (commands : after.commands = world.commands)
    (statements : after.statements = world.statements)
    (connection : after.connection = world.connection)
    (nextCommand : after.nextCommand = world.nextCommand)
    (short : after.env.length ≤ world.env.length) : Steady world after :=
  ⟨fun _ => by rw [commands], statements, connection, nextCommand, short⟩

instance : Std.Refl Steady := ⟨fun _ => of_eq rfl rfl rfl rfl (Nat.le_refl _)⟩

instance : IsTrans (World (List Reply)) Steady := ⟨fun _ _ _ first second =>
  ⟨fun id => (second.handles id).trans (first.handles id), second.statements.trans first.statements,
    second.connection.trans first.connection, second.nextCommand.trans first.nextCommand,
    Nat.le_trans second.short first.short⟩⟩

/-- A change of a command that keeps its handle. -/
theorem of_change {change : Command → Command} (same : ∀ cmd, (change cmd).mCmd = cmd.mCmd) :
    Steady world { world with
      commands := Function.update world.commands id ((world.commands id).map change) } := by
  refine ⟨fun other => ?_, rfl, rfl, rfl, Nat.le_refl _⟩
  by_cases own : other = id
  · subst own
    cases world.commands other with
    | none => simp
    | some cmd => simp [same]
  · simp [own]

theorem of_call (scripted : cfg.IsScripted) (site : Site) (call : CtCall) :
    Steady world (world.answered cfg.lib site call) :=
  of_eq rfl rfl rfl rfl (scripted.length_le call _)

theorem baseStable : BaseStable (σ := List Reply) Steady StopsAnyhow where
  raise _ _ _ := of_eq rfl rfl rfl rfl (Nat.le_refl _)
  discard _ := of_eq rfl rfl rfl rfl (Nat.le_refl _)
  halts _ _ _ := trivial

theorem readStable (scripted : cfg.IsScripted) : ReadStable cfg Steady StopsAnyhow where
  toBaseStable := baseStable
  reading _ :=
    { toBaseStable := baseStable
      call := fun site call _ _ _ _ => of_call scripted site call
      value := fun _ _ _ => of_eq rfl rfl rfl rfl (Nat.le_refl _)
      modify := fun _ _ same => of_change fun cmd => (same cmd).1 }

theorem bindStable (scripted : cfg.IsScripted) (id : CommandId) :
    BindStable cfg id Steady StopsAnyhow where
  toBaseStable := baseStable
  bind _ call _ := of_call scripted .other call
  query _ _ := of_change fun _ => rfl

/-- A command that is there with its handle. -/
theorem held (steady : Steady world after) {cmd : Command} (held : world.commands id = some cmd) :
    ∃ cmd', after.commands id = some cmd' ∧ cmd'.mCmd = cmd.mCmd :=
  Option.map_eq_some_iff.mp ((steady.handles id).trans (by rw [held]; rfl))

end Steady

/-- The registered statement has private data and is valid, and a command that it holds is there; in
a debug build that command has its handle. -/
def World.Disconnects (cfg : Config (List Reply)) (world : World (List Reply)) : Prop :=
  ∀ statement, world.connection.stmt = some statement →
    ∃ wrap, world.statements statement = some wrap ∧
    wrap.m.valid = true ∧ ∀ id, wrap.m.context = some id → ∃ cmd, world.commands id = some cmd ∧
      (cfg.build.debug = true → cmd.mCmd.isSome = true)

/-- The registered statement can be disconnected in every state that is reached. -/
theorem World.Disconnects.of_reachable {allowed : World (List Reply) → Call → Prop}
    (reached : Reachable cfg allowed world) : world.Disconnects cfg := by
  intro statement registered
  obtain ⟨wrap, held, valid, holds⟩ := Attached.of_reachable True reached statement registered
  refine ⟨wrap, held, valid, fun id context => ?_⟩
  have owns : world.context statement = some id := by rw [World.context, held]; exact context
  obtain ⟨cmd, present⟩ := Option.isSome_iff_exists.mp
    (((AllOwned.of_reachable reached).live id).mpr (.inr ⟨statement, owns⟩))
  exact ⟨cmd, present, fun _ => (holds id context).2 trivial cmd present⟩

theorem World.Disconnects.steady (disconnects : world.Disconnects cfg)
    (steady : Steady world after) :
    after.Disconnects cfg := by
  intro statement registered
  obtain ⟨wrap, held, valid, holds⟩ := disconnects statement (steady.connection ▸ registered)
  refine ⟨wrap, steady.statements ▸ held, valid, fun id context => ?_⟩
  obtain ⟨cmd, present, live⟩ := holds id context
  obtain ⟨cmd', present', handle⟩ := steady.held present
  exact ⟨cmd', present', fun debug => handle ▸ live debug⟩

/-- Disconnecting another command, or any in a build without assertions, leaves the command of the
registered statement. -/
theorem World.Disconnects.disconnected {cmd : Command} (disconnects : world.Disconnects cfg)
    (other : cfg.build.debug = true → ∀ statement wrap, world.connection.stmt = some statement →
      world.statements statement = some wrap → wrap.m.context ≠ some id) :
    (world.disconnected cfg id cmd).Disconnects cfg := by
  intro statement registered
  obtain ⟨wrap, held, valid, holds⟩ := disconnects statement registered
  refine ⟨wrap, held, valid, fun context same => ?_⟩
  obtain ⟨cmd', present, live⟩ := holds context same
  by_cases own : context = id
  · subst own
    exact ⟨{ cmd' with mCmd := none }, by simp [World.disconnected, World.dropped, present],
      fun debug => absurd same (other debug statement wrap registered held)⟩
  · exact ⟨cmd', by simpa [World.disconnected, World.dropped, own] using present, live⟩

/-! ### Closing the connection in a transaction -/

/-- The commands below a number were made, and the script has at most so many answers left. -/
structure Bounded (n : CommandId) (limit : Nat) (world : World (List Reply)) : Prop where
  known : n ≤ world.nextCommand
  short : world.env.length ≤ limit

section Closing

variable (scripted : cfg.IsScripted)
include scripted

theorem Bounded.disconnected {cmd : Command} (bounded : Bounded n limit world) :
    Bounded n limit (world.disconnected cfg id cmd) :=
  ⟨bounded.known, Nat.le_trans (Nat.le_trans (scripted.length_le (.cmdDrop cmd.mCmd) _)
    (scripted.length_le (.cancel cmd.mCmd) _)) bounded.short⟩

/-- Invalidating the registered statement succeeds, or it throws. -/
theorem wp_invalidateStatement_inside (disconnects : world.Disconnects cfg)
    (bounded : Bounded n limit world) :
    wp (invalidateStatement cfg) (fun _ after => (Survives n world after ∧ Bounded n limit after) ∧
        after.connection.stmt = none)
      (fun _ after => Survives n world after) noHalt world := by
  rw [invalidateStatement, wp_bind, wp_get]
  cases registered : world.connection.stmt with
  | none => exact ⟨⟨.of_eq rfl, bounded⟩, registered⟩
  | some statement =>
    obtain ⟨wrap, held, valid, holds⟩ := disconnects statement registered
    have noted : (world.record .other (.invalidate statement)).statements statement = some wrap :=
      held
    rw [wp_bind, invalidate, wp_bind, wp_modify, wp_bind, wp_getModuleWrap_some noted, wp_bind,
      wp_assert]
    refine ⟨fun failed => absurd failed (by simp [valid]), fun _ => ?_⟩
    cases context : wrap.m.context with
    | none => exact .of_eq rfl
    | some id =>
      obtain ⟨cmd, present, live⟩ := holds id context
      have present' : (world.record .other (.invalidate statement)).commands id = some cmd :=
        present
      rw [wp_bind, wp_cancelDisconnect present']
      refine ⟨fun failed => ?_, fun _ => ?_⟩
      · obtain ⟨debug, handle⟩ := Bool.and_eq_true_iff.mp failed
        exact absurd (live debug) (by simpa using handle)
      · have noted : Bounded n limit (world.record .other (.invalidate statement)) :=
          ⟨bounded.known, bounded.short⟩
        have disconnected : Bounded n limit
            ((world.record .other (.invalidate statement)).disconnected cfg id cmd) :=
          noted.disconnected scripted
        rw [modifyStatement, wp_modifyModuleWrap, wp_modifyConnection]
        refine ⟨⟨?_, disconnected.known, disconnected.short⟩, rfl⟩
        have changed : Survives n world { world with
            commands := Function.update world.commands id ((world.commands id).map fun cmd =>
              { cmd with mCmd := none }) } := Survives.of_change fun cmd =>
                { cmd with mCmd := none }
        exact changed.same rfl

variable (inside : ∀ env, cfg.lib.activeTransaction env = true)
include inside

/-- The connection is closed with an exception pending, whatever ct-lib answers. -/
theorem wp_closeConnection_inside (bounded : Bounded n limit world)
    (held : Held id (fun _ => True) world) (disconnects : world.Disconnects cfg)
    (other : cfg.build.debug = true → ∀ statement wrap, world.connection.stmt = some statement →
      world.statements statement = some wrap → wrap.m.context ≠ some id) :
    wp (closeConnection cfg id)
      (fun _ after => Survives n world after ∧ Lossy n limit after ∧
        after.connection.mConnection = none)
      (fun _ after => Survives n world after) noHalt world := by
  obtain ⟨cmd, held, handle, -⟩ := held
  rw [closeConnection, wp_bind, wp_cancelDisconnect held]
  refine ⟨fun failed => absurd failed (by simp [handle]), fun _ => ?_⟩
  have survives : Survives n world (world.disconnected cfg id cmd) :=
    (Survives.of_change fun cmd => { cmd with mCmd := none }).same rfl
  have closing : Bounded n limit (world.disconnected cfg id cmd) := bounded.disconnected scripted
  rw [wp_bind]
  refine wp_mono (wp_invalidateStatement_inside scripted (disconnects.disconnected other)
    closing) ?_
    (fun _ _ thrown => trans_of (Survives n) survives thrown) fun _ _ => False.elim
  rintro _ invalidated ⟨⟨kept, bounded⟩, none⟩
  have survives := trans_of (Survives n) survives kept
  rw [wp_bind, wp_ctCall, wp_bind, wp_modifyConnection, wp_bind, discardMessages, wp_modify,
    wp_bind, wasInTransaction, wp_bind, wp_get, wp_pure, inside, wp_bind, wp_when,
    wp_raiseException]
  refine ⟨fun _ => ?_, fun outside => absurd rfl outside⟩
  have closed : Bounded n limit (invalidated.answered cfg.lib .other (.close true)) :=
    ⟨bounded.known, Nat.le_trans (scripted.length_le (.close true) _) bounded.short⟩
  exact wp_mono (wp_dropConnection_subsides scripted
    ⟨List.cons_ne_nil _ _, none, closed.known, closed.short⟩ (survives.same rfl))
    (fun _ _ post => post) (fun _ _ => False.elim) fun _ _ => False.elim

/-- A reconnect fails with an exception pending, or throws, or the process is terminated. -/
theorem wp_closeAndReconnect_inside (enough : 0 < cfg.fuel) {bound : Nat} (nests : limit < bound)
    (tryReconnect : Bool) (bounded : Bounded n limit world) (held : Held id (fun _ => True) world)
    (disconnects : world.Disconnects cfg)
    (other : cfg.build.debug = true → ∀ statement wrap, world.connection.stmt = some statement →
      world.statements statement = some wrap → wrap.m.context ≠ some id) :
    wp (closeAndReconnect cfg bound id tryReconnect)
      (fun result after => (Survives n world after ∧ Lossy n limit after) ∧ result ≠ 0)
      (fun _ after => Survives n world after) (fun reason _ => reason = .terminate) world := by
  cases bound with
  | zero => exact absurd nests (Nat.not_lt_zero _)
  | succ bound =>
    have noted : Bounded n limit (world.record .other (.lost tryReconnect)) :=
      ⟨bounded.known, bounded.short⟩
    rw [closeAndReconnect, wp_bind, wp_modify, wp_bind]
    refine wp_mono (wp_closeConnection_inside scripted inside noted held disconnects other)
      ?_ (fun _ _ survives => survives) fun _ _ => False.elim
    rintro _ closed ⟨survives, lossy, none⟩
    have fails : ∀ fewer < limit, FailsLost fewer (closeAndReconnect cfg bound) := fun fewer less =>
      fails_closeAndReconnect scripted enough bound fewer
        (Nat.lt_of_lt_of_le less (Nat.le_of_lt_succ nests))
    rw [wp_bind]
    refine wp_mono (subsides_reopenConnection scripted enough fails
      (SinkKept.keeps_closeAndReconnect cfg bound) tryReconnect lossy none) ?_
      (fun _ _ post => trans_of (Survives n) survives post.1) ?_
    · rintro result opened ⟨kept, lossy, nonzero⟩
      rw [wp_bind, wp_modify, wp_pure]
      exact ⟨⟨(trans_of (Survives n) survives kept).same rfl, lossy.of_eq rfl rfl rfl rfl⟩, nonzero⟩
    · rintro reason last ⟨_, _, terminated⟩
      exact terminated

end Closing

/-! ### Setting up a command in a transaction -/

/-- A query is bound only to a command with a handle. -/
theorem wp_bindQuery_handle {cmd : Command} (held : world.commands id = some cmd)
    (query : SybaseQuery) (args : Option (List QoreValue)) :
    wp (bindQuery cfg id query args) (fun _ _ => cmd.mCmd.isSome = true) anyThrow (fun _ _ => True)
      world := by
  have queried :
      ({ world with
        commands := Function.update world.commands id ((world.commands id).map fun cmd =>
      { cmd with query := some query }) } : World (List Reply)).commands id =
        some { cmd with query := some query } := by simp [held]
  rw [bindQuery, wp_bind, wp_modifyCommand, wp_bind, initiateLanguageCommand, wp_bind, wp_assert]
  refine ⟨fun _ => trivial, fun _ => ?_⟩
  rw [wp_bind, wp_getCommand_some queried, wp_bind, wp_ctCall, wp_when, wp_doException]
  refine ⟨fun _ => trivial, fun succeeded => ?_⟩
  refine wp_mono_ok (wp_trivial _ _) fun _ _ _ => ?_
  cases handle : cmd.mCmd with
  | some handle => rfl
  | none => exact absurd (by rw [handle]; simp [CtLib.reply, CtCall.command?]) succeeded

/-- A command was set up without a loss, or there is none: it is a new one, and the others are as
they were. -/
structure SetUpInside (cmd : Option CommandId) (world after : World (List Reply)) : Prop where
  lossless : Lossless world after
  statements : after.statements = world.statements
  connection : after.connection = world.connection
  others : ∀ id < world.nextCommand,
    (after.commands id).map Command.mCmd = (world.commands id).map Command.mCmd
  made : ∀ id, cmd = some id → world.nextCommand ≤ id ∧ id < after.nextCommand ∧ Held id Fits after
  short : after.env.length ≤ world.env.length

/-- How the process stops in a transaction: before a loss is found, or by an error that leaves a
destructor. -/
def StopsInside (world : World (List Reply)) (reason : Halt) (after : World (List Reply)) : Prop :=
  reason = .terminate ∨ Lossless world after

/-- The commands that were made before, the statements and the connection are as they were. -/
theorem World.Disconnects.of_others (disconnects : world.Disconnects cfg)
    (numbered : Numbered world) (others : ∀ id < world.nextCommand,
      (after.commands id).map Command.mCmd = (world.commands id).map Command.mCmd)
    (statements : after.statements = world.statements)
    (connection : after.connection = world.connection) :
    after.Disconnects cfg := by
  intro statement registered
  obtain ⟨wrap, held, valid, holds⟩ := disconnects statement (connection ▸ registered)
  refine ⟨wrap, statements ▸ held, valid, fun id context => ?_⟩
  obtain ⟨cmd, present, live⟩ := holds id context
  obtain ⟨cmd', present', handle⟩ := Option.map_eq_some_iff.mp
    ((others id (numbered id cmd present)).trans (by rw [present]; rfl))
  exact ⟨cmd', present', fun debug => handle ▸ live debug⟩

/-- Destroying a command that is there stops the process only by an error that leaves the
destructor. -/
theorem wp_destroy_terminates (there : (world.commands id).isSome) :
    wp (Command.destroy cfg id) (fun _ _ => True) noThrow (fun reason _ => reason = .terminate)
      world := by
  obtain ⟨cmd, held⟩ := Option.isSome_iff_exists.mp there
  rw [wp_destroy held]
  split
  · split
    · rfl
    · trivial
  · trivial

section SettingUpInside

variable (scripted : cfg.IsScripted) (inside : ∀ env, cfg.lib.activeTransaction env = true)
  (enough : 0 < cfg.fuel) {bound : Nat}
include scripted inside enough

/-- In a transaction a command is sent, or the request ends in an error. -/
theorem wp_sendOrReconnect_inside (nests : world.env.length < bound) (made : id < world.nextCommand)
    (held : Held id (fun _ => True) world) (disconnects : world.Disconnects cfg)
    (other : cfg.build.debug = true → ∀ statement wrap, world.connection.stmt = some statement →
      world.statements statement = some wrap → wrap.m.context ≠ some id) :
    wp (sendOrReconnect cfg (closeAndReconnect cfg bound) id)
      (fun sent after => sent = true ∧ after.commands = world.commands ∧ Steady world after ∧
        Lossless world after)
      (fun _ after => (after.commands id).isSome) (fun reason _ => reason = .terminate) world := by
  obtain ⟨cmd, present, handle, -⟩ := held
  rw [sendOrReconnect, wp_tryCatch, wp_bind, send, wp_bind, wp_getCommand_some present, wp_bind,
    wp_ctCall, wp_when, wp_doException]
  have sent := Runs.of_call cfg world .other (.send cmd.mCmd)
  refine ⟨fun _ => ?_, fun succeeded => ⟨rfl, rfl, .of_call scripted .other _, _, sent, ?_⟩⟩
  · rw [ping, wp_bind, wp_bind, wp_ctCall, wp_pure]
    have there : (world.commands id).isSome := by rw [present]; rfl
    split
    · exact there
    · have asked : Bounded (id + 1) world.env.length
          ((world.answered cfg.lib .other (.send cmd.mCmd)).answered cfg.lib .other .conStatus) :=
        ⟨made, Nat.le_trans (scripted.length_le .conStatus _)
          (scripted.length_le (.send cmd.mCmd) _)⟩
      rw [wp_bind]
      refine wp_mono (wp_closeAndReconnect_inside scripted inside enough nests true ⟨asked.known,
        asked.short⟩ ⟨cmd, present, handle, trivial⟩ disconnects other) ?_
        (fun _ _ survives => survives id (Nat.lt_succ_self id) there) fun _ _ terminated =>
          terminated
      rintro result after ⟨⟨survives, -⟩, nonzero⟩
      rw [if_pos nonzero]
      exact survives id (Nat.lt_succ_self id) there
  · intro step member
    obtain rfl := Option.some.inj (Option.mem_toList.mp member)
    rfl

/-- One pass of setting up a command in a transaction: it is sent, or there is none. -/
theorem wp_setupCommandOnce_inside (nests : world.env.length < bound) (numbered : Numbered world)
    (disconnects : world.Disconnects cfg) (cmdText : Text) (args : Option (List QoreValue))
    (raw : Bool) :
    wp (setupCommandOnce cfg (closeAndReconnect cfg bound) cmdText args raw)
      (fun result after => ∃ cmd, result = .inr cmd ∧ SetUpInside cmd world after) anyThrow
      (StopsInside world)
      world := by
  have quiet := Silent.quietStable cfg
  have stops : ∀ {reason : Halt} {last : World (List Reply)} {state : World (List Reply)},
      Silent world state → Halted Silent StopsSilently state reason last →
      StopsInside world reason last :=
    fun silent halted => .inr (.of_silent (silent.trans (Silent.of_halted halted)))
  rw [setupCommandOnce, wp_bind]
  refine wp_mono (Program.wp_and (Steady.baseStable.keeps_initQuery cmdText args raw world)
    (quiet.keeps_initQuery cmdText args raw world)) ?_ (fun _ _ _ => trivial)
    fun _ _ both => stops (Runs.refl world) both.2
  rintro (_ | query) scanned ⟨steady, silent⟩
  · exact ⟨none, rfl, .of_silent silent, steady.statements, steady.connection,
      fun id _ => steady.handles id, fun id same => absurd same (by simp), steady.short⟩
  · have created : Silent scanned (scanned.allocated cfg) := by
      have creates := quiet.keeps_create scanned
      rw [wp_create] at creates
      exact creates
    have same : scanned.nextCommand = world.nextCommand := steady.nextCommand
    have present : (scanned.allocated cfg).commands scanned.nextCommand =
        some ⟨none, scanned.newHandle cfg, -1, .resNone, ⟨true, []⟩, []⟩ :=
          Function.update_self _ _ _
    have others : ∀ id < world.nextCommand, ((scanned.allocated cfg).commands id).map Command.mCmd =
        (world.commands id).map Command.mCmd := fun id below => by
      rw [← steady.handles, World.allocated]
      simp only [same, Function.update_of_ne (Nat.ne_of_lt below)]
    have short : (scanned.allocated cfg).env.length ≤ world.env.length :=
      Nat.le_trans (scripted.length_le (.cmdAlloc scanned.nextHandle) _) steady.short
    rw [wp_bind, wp_create, wp_bind, wp_onThrow, wp_bind]
    refine wp_mono (Program.wp_and (Program.wp_and
      ((Steady.bindStable scripted scanned.nextCommand).keeps_bindQuery query args _)
      ((quiet.bindStable scanned.nextCommand).keeps_bindQuery query args _))
      (Program.wp_and ((Untouched.bindStable cfg scanned.nextCommand).keeps_bindQuery query args _)
        (wp_bindQuery_handle present query args))) ?_ ?_ ?_
    · rintro _ ready ⟨⟨bound', silent'⟩, untouched, handle⟩
      obtain ⟨cmd, held, sameHandle, colinfo⟩ := untouched.own _ present
      have live : cmd.mCmd.isSome = true := sameHandle ▸ handle
      have kept : ∀ id < world.nextCommand,
          (ready.commands id).map Command.mCmd = (world.commands id).map Command.mCmd :=
        fun id below => (bound'.handles id).trans (others id below)
      have made : scanned.nextCommand < ready.nextCommand :=
        bound'.nextCommand ▸ Nat.lt_succ_self scanned.nextCommand
      have below := Nat.le_trans bound'.short short
      refine wp_mono (wp_sendOrReconnect_inside scripted inside enough
        (Nat.lt_of_le_of_lt below nests) made
        ⟨cmd, held, live, trivial⟩ (disconnects.of_others numbered kept
          (bound'.statements.trans steady.statements)
          (bound'.connection.trans steady.connection)) ?_) ?_ ?_ fun _ _ => .inl
      · intro _ statement wrap registered has context
        obtain ⟨wrap', has', -, holds⟩ :=
          disconnects statement ((bound'.connection.trans steady.connection) ▸ registered)
        obtain rfl :=
          Option.some.inj (has.symm.trans ((bound'.statements.trans steady.statements) ▸ has'))
        obtain ⟨cmd', present', -⟩ := holds _ context
        exact absurd (numbered _ cmd' present') (by rw [same]; exact Nat.lt_irrefl _)
      · rintro sent after ⟨rfl, commands, steady', lossless⟩
        rw [if_pos rfl]
        refine ⟨some scanned.nextCommand, rfl,
          (Lossless.of_silent (silent.trans (created.trans silent'))).trans
          lossless, steady'.statements.trans (bound'.statements.trans steady.statements),
          steady'.connection.trans (bound'.connection.trans steady.connection),
          fun id below => (steady'.handles id).trans (kept id below), fun id isId => ?_,
          Nat.le_trans steady'.short below⟩
        obtain rfl := Option.some.inj isId
        refine ⟨Nat.le_of_eq same.symm, steady'.nextCommand ▸ made, cmd, commands ▸ held, live,
          fun clean => ?_⟩
        rw [colinfo] at clean
        exact Bool.noConfusion clean
      · intro error last there
        exact wp_mono (wp_destroy_terminates there) (fun _ _ _ => trivial)
          (fun _ _ => False.elim) fun _ _ => .inl
    · rintro error last ⟨⟨bound', -⟩, -⟩
      obtain ⟨cmd, held, -⟩ := bound'.held present
      exact wp_mono (wp_destroy_terminates (held ▸ rfl)) (fun _ _ _ => trivial)
        (fun _ _ => False.elim)
        fun _ _ => .inl
    · rintro _ _ ⟨⟨-, halted⟩, -⟩
      exact stops (silent.trans created) halted

/-- In a transaction a command is set up in one pass, or the request ends in an error. -/
theorem wp_setupCommand_inside (nests : world.env.length < bound) (numbered : Numbered world)
    (disconnects : world.Disconnects cfg) (cmdText : Text) (args : Option (List QoreValue))
    (raw : Bool) :
    wp (setupCommand cfg (closeAndReconnect cfg bound) cmdText args raw)
      (fun cmd after => SetUpInside cmd world after) anyThrow (StopsInside world) world := by
  obtain ⟨fuel, passes⟩ := Nat.exists_eq_add_one_of_ne_zero (Nat.ne_of_gt enough)
  rw [setupCommand, passes, wp_iterate_succ]
  refine wp_mono_ok (wp_setupCommandOnce_inside scripted inside enough nests numbered
    disconnects cmdText args raw) ?_
  rintro _ after ⟨cmd, rfl, setsUp⟩
  exact setsUp

end SettingUpInside

/-! ### Requests in a transaction -/

section Inside

variable (scripted : cfg.IsScripted) (inside : ∀ env, cfg.lib.activeTransaction env = true)
    {bound : Nat}
include scripted inside

/-- A request in a transaction stops the process only before a loss is found, or by an error that
leaves a destructor. -/
theorem wp_execReadOutput_inside (enough : world.env.length < cfg.fuel)
    (nests : world.env.length < bound)
    (owned : AllOwned [] world) (disconnects : world.Disconnects cfg) (cmdText : Text)
    (args : Option (List QoreValue)) (needList doBinding cols singleRow : Bool) :
    wp (execReadOutput cfg (closeAndReconnect cfg bound) cmdText args needList doBinding cols
      singleRow)
      (fun _ _ => True) anyThrow (StopsInside world) world := by
  have quiet := Silent.quietStable cfg
  have fuel : 0 < cfg.fuel := Nat.lt_of_le_of_lt (Nat.zero_le _) enough
  have reconnects := Balanced.keeps_closeAndReconnect cfg bound
  rw [execReadOutput, wp_bind]
  refine wp_mono (Program.wp_and (Program.wp_and (quiet.closeStable.keeps_invalidateStatement world)
    (owned.wp_keeps (Balanced.closeStable cfg).keeps_invalidateStatement))
    (wp_invalidateStatement_inside scripted disconnects ⟨Nat.le_refl _, Nat.le_refl _⟩)) ?_
    (fun _ _ _ => trivial) fun _ _ both => both.2.elim
  rintro _ invalidated ⟨⟨silent, owned⟩, ⟨-, bounded⟩, none⟩
  have unregistered : invalidated.Disconnects cfg := fun statement registered =>
    absurd (none.symm.trans registered) (by simp)
  rw [wp_bind]
  refine wp_mono (Program.wp_and (wp_setupCommand_inside scripted inside fuel
    (Nat.lt_of_le_of_lt bounded.short nests) owned.numbered unregistered cmdText args !doBinding)
    (owned.wp_setupCommand reconnects cmdText args !doBinding)) ?_ (fun _ _ _ => trivial) ?_
  · rintro cmd sent ⟨setsUp, owned⟩
    have lossless : Lossless world sent := (Lossless.of_silent silent).trans setsUp.lossless
    have short : sent.env.length ≤ world.env.length := Nat.le_trans setsUp.short bounded.short
    cases cmd with
    | none =>
      rw [wp_ensure, wp_bind, readOutputOption, wp_bind, wp_isException]
      split
      · rw [wp_pure, wp_bind, wp_isException]
        split <;> trivial
      · exact .inr lossless
    | some id =>
      obtain ⟨-, made, held⟩ := setsUp.made id rfl
      have ready : Ready id sent := ⟨held, made, setsUp.connection ▸ none⟩
      have reads := (Balanced.statementStable cfg).keeps_readOutputOption
        ((Balanced.statementStable cfg).keeps_readNextResult reconnects)
          (some id) needList cols singleRow
      have destroys : ∀ last : World (List Reply), AllOwned [id] last →
          wp (Command.destroy cfg id) (fun _ _ => True) (fun _ _ => True)
            (StopsInside world) last :=
        fun last owned =>
          wp_mono (wp_destroy_terminates ((owned.live id).mpr (.inl List.mem_cons_self)))
          (fun _ _ _ => trivial) (fun _ _ => False.elim) fun _ _ => .inl
      have ended : wp (do
          let result ← readOutputOption cfg (closeAndReconnect cfg bound)
            (some id) needList cols singleRow
          if ← isException then Pure.pure .nothing else Pure.pure result) (fun _ _ => True) anyThrow
            (StopsReading cfg sent) sent := by
        rw [wp_bind]
        refine wp_mono_ok (wp_readOutput_ends scripted needList cols singleRow ready
          (Nat.lt_of_le_of_lt short enough) (Nat.lt_of_le_of_lt short nests))
            fun result read _ => ?_
        rw [wp_bind, wp_isException]
        split <;> trivial
      rw [wp_ensure]
      refine wp_mono (Program.wp_and ended (owned.wp_keeps (keeps_bind reads fun result =>
        keeps_bind keeps_isException fun raised => ?_))) (fun _ last both => destroys last both.2)
        (fun _ last both => destroys last both.2) ?_
      · split
        · exact keeps_pure _
        · exact keeps_pure _
      · rintro reason last ⟨⟨-, silent⟩ | terminated, -⟩
        · exact .inr (lossless.trans (.of_silent silent))
        · exact .inl terminated
  · rintro reason last ⟨terminated | lossless, -⟩
    · exact .inl terminated
    · exact .inr ((Lossless.of_silent silent).trans lossless)

end Inside

/-! ### Executions in a transaction -/

/-- A loss is found while a result is read. -/
def LostReading (world after : World (List Reply)) : Prop :=
  ∃ trace, Runs world trace after ∧ .lost false ∈ trace

theorem Lossless.not_lostReading (lossless : Lossless world after) : ¬LostReading world after := by
  rintro ⟨trace, ran, lost⟩
  obtain ⟨trace', ran', kept⟩ := lossless
  obtain rfl := ran.unique ran'
  exact Bool.noConfusion (kept _ lost)

/-- The state before the command is set up: no loss was found, the statements and handles are as
they were, and the commands belong to the statements. -/
structure Preparing (world after : World (List Reply)) : Prop where
  silent : Silent world after
  steady : Steady world after
  owned : AllOwned [] after

theorem Preparing.wp_keeps {α : Type} {program : Driver (List Reply) α}
    (preparing : Preparing world middle)
    (silent : Keeps Silent StopsSilently program) (steady : Keeps Steady StopsAnyhow program)
    (balanced : Keeps Balanced StopsAnyhow program) :
    wp program (fun _ after => Preparing world after) (fun _ after => Lossless world after)
      (fun _ after => Lossless world after) middle :=
  wp_mono (Program.wp_and (Program.wp_and (silent middle) (steady middle)) (balanced middle))
    (fun _ _ both => ⟨preparing.silent.trans both.1.1, trans_of Steady preparing.steady both.1.2,
      both.2 [] preparing.owned⟩)
    (fun _ _ both => .of_silent (preparing.silent.trans both.1.1))
    fun _ _ both => .of_silent (preparing.silent.trans (Silent.of_halted both.1.1))

/-- The statement holds the given command, or none. -/
def World.holding (world : World (List Reply)) (statement : StatementId) (cmd : Option CommandId) :
    World (List Reply) := { world with
  statements := Function.update world.statements statement
    ((world.statements statement).map fun wrap =>
      { wrap with m := { wrap.m with context := cmd } }) }

theorem World.holding_of_ne {other : StatementId} (different : other ≠ statement)
    (cmd : Option CommandId) :
    (world.holding statement cmd).statements other = world.statements other :=
  Function.update_of_ne different _ _

/-- A statement holds a command instead of the one it held, which was destroyed. -/
structure TakesOver (statement : StatementId) (cmd : Option CommandId)
    (world after : World (List Reply)) : Prop where
  statements : after.statements = (world.holding statement cmd).statements
  holds : ∃ wrap, after.statements statement = some wrap ∧ wrap.m.context = cmd
  others : ∀ id, world.context statement ≠ some id → after.commands id = world.commands id
  connection : after.connection = world.connection
  short : after.env.length ≤ world.env.length

theorem wp_resetContext_takesOver (scripted : cfg.IsScripted) (statement : StatementId)
    {cmd : Option CommandId} {roots : List CommandId} (owned : AllOwned roots world) :
    wp (Statement.resetContext cfg statement cmd)
      (fun _ after => TakesOver statement cmd world after) noThrow
      (fun reason _ => reason = .terminate ∨ reason = .undefined) world := by
  rw [Statement.resetContext, wp_bind, wp_getModuleWrap]
  refine ⟨fun wrap held => ?_, fun _ => .inr rfl⟩
  have context : world.context statement = wrap.m.context := by rw [World.context, held]; rfl
  have taken : ∃ wrap', (world.holding statement cmd).statements statement = some wrap' ∧
      wrap'.m.context = cmd :=
    ⟨{ wrap with m := { wrap.m with context := cmd } }, by simp [World.holding, held], rfl⟩
  rw [wp_bind, modifyStatement, wp_modifyModuleWrap]
  cases holds : wrap.m.context with
  | none => exact ⟨rfl, taken, fun _ _ => rfl, rfl, Nat.le_refl _⟩
  | some old =>
    rw [holds] at context
    obtain ⟨cmd', present⟩ :=
      Option.isSome_iff_exists.mp ((owned.live old).mpr (.inr ⟨statement, context⟩))
    have others : ∀ id, world.context statement ≠ some id → id ≠ old := fun id other same =>
      other (same ▸ context)
    have there : (world.holding statement cmd).commands old = some cmd' := present
    refine (wp_destroy there).mpr ?_
    split
    · split
      · exact .inl rfl
      · have canceled (state : World (List Reply)) : Steady state (state.canceled cfg cmd') ∧
            (state.canceled cfg cmd').commands = state.commands := by
          unfold World.canceled
          split
          · exact ⟨.of_call scripted _ _, rfl⟩
          · exact ⟨refl_of Steady state, rfl⟩
        obtain ⟨steady, commands⟩ := canceled (world.holding statement cmd)
        refine ⟨steady.statements, ?_, fun id other => ?_, steady.connection,
          Nat.le_trans (scripted.length_le (.cmdDrop cmd'.mCmd) _) steady.short⟩
        · obtain ⟨wrap', held', mine⟩ := taken
          exact ⟨wrap', (congrFun steady.statements statement).trans held', mine⟩
        · have different := others id other
          have same : (world.holding statement cmd).commands id = world.commands id := rfl
          simp [World.removed, World.dropped, different, commands, same]
    · exact ⟨rfl, taken, fun id other => Function.update_of_ne (others id other) _ _, rfl,
        Nat.le_refl _⟩

/-- Where the statement that takes a command over is not the registered one, or the build has no
assertions, the command of the registered statement can still be disconnected, and is another
one. -/
theorem TakesOver.disconnects {cmd : Command} (takes : TakesOver statement (some id) world after)
    (owned : AllOwned [id] world) (disconnects : world.Disconnects cfg)
    (present : after.commands id = some cmd)
    (foreign : ¬(cfg.build.debug = true ∧ after.connection.stmt = some statement)) :
    after.Disconnects cfg ∧
    (cfg.build.debug = true → ∀ other wrap, after.connection.stmt = some other →
      after.statements other = some wrap → wrap.m.context ≠ some id) := by
  constructor
  · intro other registered
    obtain ⟨wrap, has, valid, holds⟩ := disconnects other (takes.connection ▸ registered)
    by_cases same : other = statement
    · subst same
      refine ⟨{ wrap with m := { wrap.m with context := some id } },
        by rw [takes.statements]; simp [World.holding, has], valid, fun context isId => ?_⟩
      obtain rfl := Option.some.inj isId
      exact ⟨cmd, present, fun debug => absurd ⟨debug, registered⟩ foreign⟩
    · refine ⟨wrap, by rw [takes.statements, World.holding_of_ne same, has], valid,
        fun context isId => ?_⟩
      obtain ⟨cmd', present', live⟩ := holds context isId
      have theirs : world.context other = some context := by rw [World.context, has]; exact isId
      exact ⟨cmd', (takes.others context fun mine =>
        same (owned.alone other statement context theirs mine)).trans present', live⟩
  · intro debug other wrap registered has isId
    have different : other ≠ statement := fun same => foreign ⟨debug, same ▸ registered⟩
    rw [takes.statements, World.holding_of_ne different] at has
    have theirs : world.context other = some id := by rw [World.context, has]; exact isId
    exact owned.apart other id theirs List.mem_cons_self

/-- The lost connection is closed while the registered statement holds the command that is read: in
a debug build the process stops. -/
theorem wp_closeAndReconnect_own {wrap : ModuleWrap} {cmd : Command} (bound : Nat)
    (debug : cfg.build.debug = true) (registered : world.connection.stmt = some statement)
    (held : world.statements statement = some wrap) (context : wrap.m.context = some id)
    (present : world.commands id = some cmd) (tryReconnect : Bool) :
    wp (closeAndReconnect cfg bound id tryReconnect) (fun _ _ => False) (fun _ _ => False)
      (fun _ _ => True) world := by
  cases bound with
  | zero => trivial
  | succ bound =>
    have noted : (world.record .other (.lost tryReconnect)).commands id = some cmd := present
    rw [closeAndReconnect, wp_bind, wp_modify, wp_bind, closeConnection, wp_bind,
      wp_cancelDisconnect noted]
    refine ⟨fun _ => trivial, fun _ => ?_⟩
    have registered' : ((world.record .other (.lost tryReconnect)).disconnected cfg id
        cmd).connection.stmt = some statement := registered
    have held' : (((world.record .other (.lost tryReconnect)).disconnected cfg id cmd).record .other
        (.invalidate statement)).statements statement = some wrap := held
    have present' :
        (((world.record .other (.lost tryReconnect)).disconnected cfg id cmd).record .other
        (.invalidate statement)).commands id = some { cmd with mCmd := none } := by
      show Function.update world.commands id _ id = _
      rw [Function.update_self]
      show (world.commands id).map _ = _
      rw [present]
      rfl
    rw [wp_bind, invalidateStatement, wp_bind, wp_get, registered', wp_bind, invalidate, wp_bind,
      wp_modify, wp_bind, wp_getModuleWrap_some held', wp_bind, wp_assert]
    refine ⟨fun _ => trivial, fun _ => ?_⟩
    simp only [context]
    rw [wp_bind, wp_cancelDisconnect present']
    exact ⟨fun _ => trivial, fun passed => absurd (by simp [debug]) passed⟩

/-- The statement that is executed is the registered one, in a debug build. -/
def ReadsOwn (cfg : Config (List Reply)) (statement : StatementId) (world : World (List Reply)) :
    Prop :=
  cfg.build.debug = true ∧ world.connection.stmt = some statement

/-- How the process stops while a statement is executed in a transaction. -/
def StopsExecution (cfg : Config (List Reply)) (statement : StatementId)
    (world : World (List Reply)) (reason : Halt) (after : World (List Reply)) : Prop :=
  StopsInside world reason after ∨ ReadsOwn cfg statement world ∧ LostReading world after

section Executing

variable (scripted : cfg.IsScripted) (inside : ∀ env, cfg.lib.activeTransaction env = true)
  (enough : 0 < cfg.fuel) {bound : Nat}
include scripted inside enough

/-- Reading the first result stops the process as reading may, or where the connection is lost that
the statement is registered on. -/
theorem wp_connectionReadNextResult_inside {base : World (List Reply)}
    (earlier : Lossless base world) (connection : world.connection.stmt = base.connection.stmt)
    (nests : world.env.length < bound) (held : Held id (fun _ => True) world)
    (holds : ∃ wrap, world.statements statement = some wrap ∧ wrap.m.context = some id)
    (others : ¬ReadsOwn cfg statement base → world.Disconnects cfg ∧ (cfg.build.debug = true →
      ∀ other wrap, world.connection.stmt = some other → world.statements other = some wrap →
        wrap.m.context ≠ some id)) :
    wp (Connection.readNextResult cfg (closeAndReconnect cfg bound) id)
      (fun _ after => ReadsOwn cfg statement base → ¬LostReading base after)
      (fun _ after => ReadsOwn cfg statement base → ¬LostReading base after)
      (StopsExecution cfg statement base) world := by
  rw [Connection.readNextResult, wp_bind, wp_isException]
  split
  · exact fun _ => earlier.not_lostReading
  · rw [wp_bind]
    refine wp_mono
      (Program.wp_and (((Silent.quietStable cfg).readingStable id).keeps_readNextResult world)
      (((Steady.readStable scripted).reading id).keeps_readNextResult world)) ?_
      (fun _ _ both _ => (earlier.trans (.of_silent both.1)).not_lostReading)
      fun _ _ both => .inl (.inr (earlier.trans (.of_silent (Silent.of_halted both.1))))
    rintro ⟨rc, disconnect⟩ read ⟨silent, steady⟩
    have lossless := earlier.trans (.of_silent silent)
    cases disconnect with
    | false => exact fun _ => lossless.not_lostReading
    | true =>
      obtain ⟨cmd, present, handle, -⟩ := held
      obtain ⟨cmd', present', handle'⟩ := steady.held present
      dsimp only
      rw [if_pos rfl, wp_bind]
      by_cases own : ReadsOwn cfg statement base
      · obtain ⟨wrap, has, context⟩ := holds
        refine wp_mono (Program.wp_and (wp_closeAndReconnect_own bound own.1
          ((congrArg Connection.stmt steady.connection).trans (connection.trans own.2))
          (steady.statements ▸ has) context present' false)
            (wp_closeAndReconnect cfg bound id false read))
          (fun _ _ both => both.1.elim) (fun _ _ both => both.1.elim) ?_
        rintro _ after ⟨-, ran | ran⟩
        · exact .inl (.inr (lossless.trans (.of_silent ran)))
        · obtain ⟨trace, before, -⟩ := lossless
          exact .inr ⟨own, _, before.trans ran, List.mem_append_right _ List.mem_cons_self⟩
      · obtain ⟨disconnects, apart⟩ := others own
        refine wp_mono (wp_closeAndReconnect_inside scripted inside enough
          (Nat.lt_of_le_of_lt steady.short nests)
          false ⟨Nat.zero_le _, Nat.le_refl _⟩ ⟨cmd', present', handle' ▸ handle, trivial⟩
          (disconnects.steady steady) ?_) (fun _ _ _ => ?_) (fun _ _ _ isOwn => absurd isOwn own)
          fun _ _ terminated => .inl (.inl terminated)
        · rw [steady.connection, steady.statements]
          exact apart
        · exact fun isOwn => absurd isOwn own

/-- An execution in a transaction stops the process only before a loss is found, by an error that
leaves a destructor, or where its own results are lost in a debug build. -/
theorem wp_exec_inside (nests : world.env.length < bound) (owned : AllOwned [] world)
    (disconnects : world.Disconnects cfg) (query : Option Text) (args : Option (List QoreValue))
    (raw : Bool) :
    wp (Statement.exec cfg (closeAndReconnect cfg bound) statement query args raw)
      (fun _ after => ReadsOwn cfg statement world → ¬LostReading world after)
      (fun _ after => ReadsOwn cfg statement world → ¬LostReading world after)
      (StopsExecution cfg statement world) world := by
  have quiet := Silent.quietStable cfg
  have steady := Steady.readStable scripted
  have constant : cfg.lib.FlagConstant := fun _ _ => (inside _).trans (inside _).symm
  have start : Preparing world world := ⟨Runs.refl world, refl_of Steady world, owned⟩
  unfold Statement.exec
  rw [wp_bind]
  refine wp_mono (start.wp_keeps (quiet.keeps_checkValid statement)
    (steady.keeps_checkValid statement)
    (Balanced.baseStable.keeps_checkValid statement)) (fun invalid checked preparing => ?_)
    (fun _ _ lossless _ => lossless.not_lostReading) fun _ _ lossless => .inl (.inr lossless)
  split
  · exact fun _ => (Lossless.of_silent preparing.silent).not_lostReading
  · rw [wp_bind]
    refine wp_mono (preparing.wp_keeps (quiet.frameStable.keeps_cancelContext statement)
      (steady.keeps_cancelContext statement)
        ((Balanced.statementStable cfg).keeps_cancelContext statement))
      (fun _ canceled preparing => ?_)
      (fun _ _ lossless _ => lossless.not_lostReading) fun _ _ lossless => .inl (.inr lossless)
    rw [wp_bind]
    refine wp_mono (preparing.wp_keeps quiet.keeps_checkOpen steady.keeps_checkOpen
      Balanced.baseStable.keeps_checkOpen) (fun _ opened preparing => ?_)
      (fun _ _ lossless _ => lossless.not_lostReading) fun _ _ lossless => .inl (.inr lossless)
    cases query with
    | none => exact .inl (.inr (.of_silent preparing.silent))
    | some query =>
      have nests : opened.env.length < bound := Nat.lt_of_le_of_lt preparing.steady.short nests
      have disconnects : opened.Disconnects cfg := disconnects.steady preparing.steady
      dsimp only
      rw [wp_bind]
      refine wp_mono (Program.wp_and (Program.wp_and
        (wp_setupCommand_inside scripted inside enough nests preparing.owned.numbered disconnects
          query args raw)
        (preparing.owned.wp_setupCommand (Balanced.keeps_closeAndReconnect cfg bound)
          query args raw))
        (wp_setupCommand constant bound query args raw opened)) ?_ ?_ ?_
      · rintro cmd sent ⟨⟨setsUp, owned⟩, -⟩
        have lossless : Lossless world sent :=
          (Lossless.of_silent preparing.silent).trans setsUp.lossless
        have registered : sent.connection = world.connection :=
          setsUp.connection.trans preparing.steady.connection
        rw [wp_bind]
        refine wp_mono (Program.wp_and (quiet.frameStable.keeps_resetContext statement cmd sent)
          (wp_resetContext_takesOver scripted statement owned)) (fun _ reset both => ?_)
          (fun _ _ both => both.2.elim)
          fun _ _ both => .inl (.inr (lossless.trans (.of_silent (Silent.of_halted both.1))))
        obtain ⟨silent, takes⟩ := both
        have lossless := lossless.trans (.of_silent silent)
        have registered : reset.connection = world.connection := takes.connection.trans registered
        rw [wp_bind, wp_isException]
        split
        · exact fun _ => lossless.not_lostReading
        · rw [wp_bind]
          cases cmd with
          | none =>
            rw [Statement.readNextResult, wp_bind, wp_isException]
            split
            · rw [wp_pure, wp_bind, wp_isException]
              split <;> exact fun _ => lossless.not_lostReading
            · exact .inl (.inr lossless)
          | some id =>
            obtain ⟨-, -, cmd, present, handle, -⟩ := setsUp.made id rfl
            have mine : sent.context statement ≠ some id := fun same =>
              owned.apart statement id same List.mem_cons_self
            have present : reset.commands id = some cmd := (takes.others id mine).trans present
            refine wp_mono (wp_connectionReadNextResult_inside scripted inside enough lossless
              (congrArg Connection.stmt registered)
              (Nat.lt_of_le_of_lt (Nat.le_trans takes.short setsUp.short) nests)
                ⟨cmd, present, handle, trivial⟩
              takes.holds fun foreign => takes.disconnects owned
                (disconnects.of_others preparing.owned.numbered setsUp.others setsUp.statements
                  setsUp.connection)
                present fun own => foreign ⟨own.1, registered ▸ own.2⟩) (fun _ _ post => ?_)
              (fun _ _ post => post) fun _ _ post => post
            rw [wp_bind, wp_isException]
            split <;> exact post
      · rintro error last ⟨-, trace, ran, retried⟩ -
        rintro ⟨trace', ran', lost⟩
        obtain rfl : trace' = trace := ran'.unique (preparing.silent.trans ran)
        have attempt : Attempt trace' := retried.isLast (by simp [inside])
        rcases attempt with isPrefix | ⟨result, isPrefix⟩
        · exact absurd (isPrefix.subset lost) (by simp)
        · exact absurd (isPrefix.subset lost) (by simp)
      · rintro reason last ⟨⟨terminated | lossless, -⟩, -⟩
        · exact .inl (.inl terminated)
        · exact .inl (.inr ((Lossless.of_silent preparing.silent).trans lossless))

end Executing

/-! ### Requests end in an error -/

/-- The request executes the statement that is registered, in a debug build. -/
def Request.ReadsOwn (cfg : Config (List Reply)) (world : World (List Reply)) : Request → Prop
  | direct _ _ _ _ _ _ => False
  | execute statement _ _ _ => Sybase.ReadsOwn cfg statement world

/-- A request in a transaction stops the process only as it may. -/
theorem Request.wp_run_inside (scripted : cfg.IsScripted)
    (inside : ∀ env, cfg.lib.activeTransaction env = true) {bound : Nat}
    (enough : world.env.length < cfg.fuel) (nests : world.env.length < bound)
    (owned : AllOwned [] world)
    (disconnects : world.Disconnects cfg) (request : Request) :
    wp (request.run cfg bound)
      (fun _ after => request.ReadsOwn cfg world → ¬LostReading world after)
      (fun _ after => request.ReadsOwn cfg world → ¬LostReading world after)
      (fun reason after => StopsInside world reason after ∨
        request.ReadsOwn cfg world ∧ LostReading world after) world := by
  cases request with
  | direct =>
    exact (wp_bind _ _).mpr (wp_mono (wp_execReadOutput_inside scripted inside enough nests
      owned disconnects
      _ _ _ _ _ _) (fun _ _ _ own => own.elim) (fun _ _ _ own => own.elim) fun _ _ => .inl)
  | execute =>
    exact (wp_bind _ _).mpr (wp_mono_ok (wp_exec_inside scripted inside
      (Nat.lt_of_le_of_lt (Nat.zero_le _) enough) nests owned disconnects _ _ _) fun _ _ post =>
        post)

theorem Request.keeps_run (cfg : Config (List Reply)) (bound : Nat) (request : Request) :
    Keeps Extends StopsAtClear (request.run cfg bound) := by
  have requests := (Extends.stable cfg).requestStable
  cases request with
  | direct =>
    exact keeps_bind ((Extends.stable cfg).keeps_execReadOutput
      (Extends.keeps_closeAndReconnect cfg bound) _ _ _ _ _ _) fun _ => keeps_pure _
  | execute =>
    exact keeps_bind (requests.keeps_exec (Extends.keeps_closeAndReconnect cfg bound) _ _ _ _)
      fun _ => keeps_pure _

/-- After a loss in a transaction a request stops the process exactly if a cancel in the destructor
of a command fails, or if the loss is found while the results of the registered statement are read
in a debug build. -/
theorem Request.stops_iff (scripted : cfg.IsScripted) {bound : Nat}
    (enough : world.env.length < cfg.fuel)
    (nests : world.env.length < bound) (owned : AllOwned [] world)
    (disconnects : world.Disconnects cfg)
    (request : Request) {trace : List Step} (ran : Runs world trace (request.run cfg bound world).2)
    (lost : LostInside (cfg.lib.activeTransaction world.env) trace) :
    Stops (request.run cfg bound world) ↔
      ¬Writes (fun entry => ¬entry.IsFailedClear) (request.run cfg bound) world ∨
        request.ReadsOwn cfg world ∧ .lost false ∈ trace := by
  have inside : ∀ env, cfg.lib.activeTransaction env = true := by
    obtain ⟨activeTransaction, lib⟩ := scripted
    have active := lost.1
    rw [lib] at active ⊢
    exact fun _ => active
  have terminates := terminates_iff (request.keeps_run cfg bound) world
  obtain ⟨returned, thrown, halted⟩ := wp_iff_forall.mp
    (request.wp_run_inside scripted inside enough nests owned disconnects)
  rw [← terminates]
  rcases run : request.run cfg bound world with ⟨value | error | reason, after⟩ <;> rw [run] at ran
  case ok =>
    refine iff_of_false Bool.false_ne_true ?_
    rintro (same | ⟨own, reading⟩)
    · cases same
    · exact returned value after run own ⟨trace, ran, reading⟩
  case throw =>
    refine iff_of_false Bool.false_ne_true ?_
    rintro (same | ⟨own, reading⟩)
    · cases same
    · exact thrown error after run own ⟨trace, ran, reading⟩
  case halt =>
    refine iff_of_true rfl ?_
    rcases halted reason after run with (rfl | lossless) | ⟨own, trace', ran', reading⟩
    · exact .inl rfl
    · exact absurd lost (lossless.not_lostInside ran)
    · obtain rfl := ran.unique ran'
      exact .inr ⟨own, reading⟩

/-- A request sends its command at most once with success, and sends it again only after a reconnect
outside a transaction, on every ct-lib under which the in-transaction flag stays as it is. Where the
connection is lost in a transaction, it does not send it again, and ends in an error exactly if no
cancel in the destructor of a command fails and, in a debug build, the loss is not found while the
results of the registered statement are read: in a call from every state that is reached, on every
finite script of answers. -/
theorem requests_sentOnce (request : Request) :
    (∀ {σ : Type} (cfg : Config σ), cfg.lib.FlagConstant → ∀ (bound : Nat) (world : World σ),
      ∃ trace, Runs world trace (request.run cfg bound world).2 ∧
        SentOnce (cfg.lib.activeTransaction world.env) trace
          (EndsInError (request.run cfg bound world) ∨ Stops (request.run cfg bound world))) ∧
    ∀ (cfg : Config (List Reply)), cfg.IsScripted →
      ∀ (allowed : World (List Reply) → Call → Prop) (reached : World (List Reply)),
      Reachable cfg allowed reached → ∀ (call : Call) (world : World (List Reply)),
      world = reached.calling call → ∀ bound, world.env.length < cfg.fuel →
      world.env.length < bound → ∀ trace, Runs world trace (request.run cfg bound world).2 →
        (SentOnce (cfg.lib.activeTransaction world.env) trace
          (EndsInError (request.run cfg bound world)) ↔
          ¬(LostInside (cfg.lib.activeTransaction world.env) trace ∧
            (¬Writes (fun entry => ¬entry.IsFailedClear) (request.run cfg bound) world ∨
              request.ReadsOwn cfg world ∧ .lost false ∈ trace))) := by
  constructor
  · intro σ cfg constant bound world
    obtain ⟨trace, ran, accounted⟩ := request.accounted constant bound world
    exact ⟨trace, ran, accounted.atMostOnce⟩
  · rintro cfg scripted allowed reached run call world rfl bound enough nests trace ran
    have owned : AllOwned [] (reached.calling call) :=
      (AllOwned.of_reachable run).of_eq (fun _ => rfl) rfl (Nat.le_refl _)
    have disconnects : (reached.calling call).Disconnects cfg := fun statement =>
      World.Disconnects.of_reachable run statement
    have constant : cfg.lib.FlagConstant := by
      obtain ⟨activeTransaction, lib⟩ := scripted
      rw [lib]
      exact fun _ _ => rfl
    obtain ⟨trace', ran', accounted⟩ := request.accounted constant bound (reached.calling call)
    obtain rfl := ran.unique ran'
    rw [accounted.sentOnce_iff]
    exact not_congr (and_congr_right fun lost =>
      request.stops_iff scripted enough nests owned disconnects ran lost)

/-- A ct-lib on which the first send fails and the connection is found down, in a transaction. -/
def sampleLost : List Reply := [{}, {}, { code := .fail }, { connected := false }]

/-- A request on that ct-lib. -/
def lostRequest : Request := .direct (text "select 1") none true true false false

theorem lostRequest_clears :
    (lostRequest.run (Config.sample (CtLib.scripted true) true 5) 5
      (World.opened sampleLost)).2.log.all
      (fun entry => !entry.isFailedClear) = true := by
  decide +kernel

theorem requests_sentOnce_lost : ∃ trace,
    let ended := lostRequest.run (Config.sample (CtLib.scripted true) true 5) 5
      (World.opened sampleLost)
    Runs (World.opened sampleLost) trace ended.2 ∧ SentOnce true trace (EndsInError ended) := by
  obtain ⟨anyLib, ends⟩ := requests_sentOnce lostRequest
  obtain ⟨trace, ran, -⟩ := anyLib (Config.sample (CtLib.scripted true) true 5) (fun _ _ => rfl) 5
    (World.opened sampleLost)
  have start : Reachable (Config.sample (CtLib.scripted true) true 5) (fun _ _ => True)
      (World.opened sampleLost) := .start ⟨rfl, rfl, rfl, rfl⟩
  refine ⟨trace, ran, (ends (Config.sample (CtLib.scripted true) true 5) ⟨true, rfl⟩ _ _ start
    ⟨[], .datasource (.select (text "select 1") none)⟩ (World.opened sampleLost) rfl 5 (by decide)
    (by decide) trace ran).mpr ?_⟩
  rintro ⟨-, failed | ⟨own, -⟩⟩
  · refine failed ((writes_iff_of_empty rfl).mpr fun entry member => ?_)
    rw [← Entry.isFailedClear_iff]
    simpa using List.all_eq_true.mp lostRequest_clears entry member
  · exact own

/-- A ct-lib on which the connection is lost when the first result is asked for: `ct_results` fails,
and so does the cancel that follows. -/
def sampleLostReading : List Reply := [{}, {}, {}, { code := .fail }, { code := .fail }]

/-- The call that prepares a statement. -/
abbrev preparingLost : Call := ⟨[], .statement 0 (.prepare (text "select 1") none)⟩

/-- A statement is prepared, which registers it. -/
def lostReadingWorld : World (List Reply) :=
  (preparingLost.run (Config.sample (CtLib.scripted true) true 5)
    (World.opened sampleLostReading)).2

/-- The execution of the statement on that ct-lib, in a debug build. -/
def lostReading : Outcome Error Halt Unit × World (List Reply) :=
  (Request.execute 0 (some (text "select 1")) none false).run
    (Config.sample (CtLib.scripted true) true 5) 5
    lostReadingWorld

theorem lostReading_stops : Stops lostReading := by
  show isHalt lostReading.1 = true
  decide +kernel

/-- It stops the process: the command is disconnected, and then once more as that of the registered
statement. -/
theorem not_requests_sentOnce :
    Reachable (Config.sample (CtLib.scripted true) true 5) (fun _ _ => True) lostReadingWorld ∧
    ¬∃ trace, Runs lostReadingWorld trace lostReading.2 ∧
      SentOnce true trace (EndsInError lostReading) := by
  have start : (World.opened sampleLostReading).IsStart := ⟨rfl, rfl, rfl, rfl⟩
  refine ⟨.call (.start start) trivial (.inl (rfl : preparingLost.run _ _ = (.ok (), _))), ?_⟩
  rintro ⟨trace, ⟨-, new, log, rfl⟩, once⟩
  have whole : lostReading.2.log = new := log.trans (List.append_nil new)
  have lost : .lost false ∈ steps 0 lostReading.2.log := by decide +kernel
  rw [whole] at lost
  exact not_endsInError_of_stops lostReading_stops (once.transaction rfl (.inr ⟨false, lost⟩)).2

end Sybase
