/-
This file proves that `readOutput` ends on every finite script. Where the connection
is lost an exception is pending, and no statement is registered: the queries that a
reconnect executes then read nothing, and another reconnect is nested only after
answers were taken from the script. So the process stops only where an error leaves
the destructor of a command, whose `ct_cancel` failed; everywhere else a failure while
reading ends in an exception.
-/

import SybaseDriver.Boundary
import SybaseDriver.CommandLogic
import SybaseDriver.Phases
import SybaseDriver.Resend
import SybaseDriver.Termination

namespace Sybase

open Program Connection Command

variable {cfg : Config (List Reply)} {world middle after : World (List Reply)} {limit : Nat}
  {id n m : CommandId}

/-! ### After the connection is lost -/

/-- An exception is pending, no statement is registered, the commands below a number were made, and
the script has at most so many answers left. -/
structure Lossy (n : CommandId) (limit : Nat) (world : World (List Reply)) : Prop where
  raised : world.xsink ≠ []
  stmt : world.connection.stmt = none
  known : n ≤ world.nextCommand
  short : world.env.length ≤ limit

namespace Lossy

theorem of_eq (lossy : Lossy n limit world) (xsink : after.xsink = world.xsink)
    (stmt : after.connection.stmt = world.connection.stmt)
    (nextCommand : after.nextCommand = world.nextCommand) (env : after.env = world.env) :
    Lossy n limit after :=
  ⟨xsink ▸ lossy.raised, stmt.trans lossy.stmt, nextCommand ▸ lossy.known, env ▸ lossy.short⟩

theorem raise (lossy : Lossy n limit world) (err desc : String) :
    Lossy n limit { world with xsink := ⟨err, desc⟩ :: world.xsink } :=
  ⟨List.cons_ne_nil _ _, lossy.stmt, lossy.known, lossy.short⟩

theorem answered (scripted : cfg.IsScripted) (lossy : Lossy n limit world) (site : Site)
    (call : CtCall) : Lossy n limit (world.answered cfg.lib site call) :=
  ⟨lossy.raised, lossy.stmt, lossy.known, Nat.le_trans (scripted.length_le _ _) lossy.short⟩

/-- Fewer commands and more answers. -/
theorem weaken {limit' : Nat} (lossy : Lossy m limit' world) (less : n ≤ m)
    (more : limit' ≤ limit) :
    Lossy n limit world :=
  ⟨lossy.raised, lossy.stmt, Nat.le_trans less lossy.known, Nat.le_trans lossy.short more⟩

end Lossy

/-- The commands below a number that are there stay there. -/
def Survives (n : CommandId) (world after : World (List Reply)) : Prop :=
  ∀ id < n, (world.commands id).isSome → (after.commands id).isSome

namespace Survives

instance : Std.Refl (Survives n) := ⟨fun _ _ _ present => present⟩

instance : IsTrans (World (List Reply)) (Survives n) :=
  ⟨fun _ _ _ first second id below present => second id below (first id below present)⟩

theorem of_eq (commands : after.commands = world.commands) : Survives n world after :=
  fun _ _ present => commands ▸ present

theorem same (survives : Survives n world middle) (commands : after.commands = middle.commands) :
    Survives n world after := trans_of (Survives n) survives (of_eq commands)

theorem le (survives : Survives m world after) (less : n ≤ m) : Survives n world after :=
  fun id below => survives id (Nat.lt_of_lt_of_le below less)

/-- A change of a command that is there. -/
theorem of_change (change : Command → Command) : Survives n world { world with
    commands := Function.update world.commands id ((world.commands id).map change) } := by
  intro other _ present
  by_cases same : other = id
  · subst same
    simpa using present
  · simpa [same] using present

/-- Another command that is made or destroyed. -/
theorem of_update (above : n ≤ id) (command : Option Command)
    (commands : after.commands = Function.update world.commands id command) :
    Survives n world after := by
  intro other below present
  rwa [commands, Function.update_of_ne (Nat.ne_of_lt (Nat.lt_of_lt_of_le below above))]

end Survives

/-- The process stops only by an error that leaves a destructor. -/
def Terminates (reason : Halt) (_ _ : World (List Reply)) : Prop := reason = .terminate

/-- A run that keeps the exception pending and ends, unless the process is terminated. -/
abbrev Subsides {α : Type} (n : CommandId) (limit : Nat) (program : Driver (List Reply) α)
    (onOk : α → World (List Reply) → Prop) (world : World (List Reply)) : Prop :=
  Reaches (Survives n) Terminates program (fun value after => Lossy n limit after ∧
    onOk value after)
    (Lossy n limit) world

namespace Subsides

variable {α : Type} {program : Driver (List Reply) α} {onOk : α → World (List Reply) → Prop}

/-- Fewer commands and more answers. -/
theorem weaken {limit' : Nat} (subsides : Subsides m limit' program onOk world) (less : n ≤ m)
    (more : limit' ≤ limit) : Subsides n limit program onOk world :=
  wp_mono subsides (fun _ _ post => ⟨post.1.le less, post.2.1.weaken less more, post.2.2⟩)
    (fun _ _ post => ⟨post.1.le less, post.2.weaken less more⟩)
    fun _ _ ⟨last, survives, stopped⟩ => ⟨last, survives.le less, stopped⟩

/-- A command that survives the run is there afterwards. -/
theorem present (subsides : Subsides (id + 1) limit program onOk world)
    (there : (world.commands id).isSome) (less : n ≤ id) :
    Reaches (Survives n) Terminates program
      (fun value after => (Lossy n limit after ∧ (after.commands id).isSome) ∧ onOk value after)
      (fun after => Lossy n limit after ∧ (after.commands id).isSome) world :=
  have less' : n ≤ id + 1 := Nat.le_succ_of_le less
  have below : id < id + 1 := Nat.lt_succ_self id
  wp_mono subsides
    (fun _ _ post => ⟨post.1.le less',
      ⟨post.2.1.weaken less' (Nat.le_refl _), post.1 id below there⟩, post.2.2⟩)
    (fun _ _ post => ⟨post.1.le less', post.2.weaken less' (Nat.le_refl _), post.1 id below there⟩)
    fun _ _ ⟨last, survives, stopped⟩ => ⟨last, survives.le less', stopped⟩

end Subsides

section Commands

variable (scripted : cfg.IsScripted)
include scripted

/-- The end of closing a connection. -/
theorem wp_dropConnection_subsides (lossy : Lossy n limit world)
    (survives : Survives n middle world) :
    wp (do
      let _ ← ctCall cfg (.conDrop (← get).connection.mConnection)
      modifyConnection fun connection => { connection with mConnection := none })
      (fun _ after => Survives n middle after ∧ Lossy n limit after ∧
        after.connection.mConnection = none)
      noThrow noHalt world := by
  rw [wp_bind, wp_get, wp_bind, wp_ctCall, wp_modifyConnection]
  refine ⟨survives.same rfl, ?_, rfl⟩
  exact (lossy.answered scripted .other (.conDrop world.connection.mConnection)).of_eq rfl
    rfl rfl rfl

/-- A lost connection is closed, whatever ct-lib answers. -/
theorem wp_closeConnection_subsides (lossy : Lossy n limit world)
    (held : Held id (fun _ => True) world) :
    wp (closeConnection cfg id)
      (fun _ after => Survives n world after ∧ Lossy n limit after ∧
        after.connection.mConnection = none)
      noThrow noHalt world := by
  obtain ⟨cmd, held, handle, -⟩ := held
  rw [closeConnection, wp_bind, wp_cancelDisconnect held]
  refine ⟨fun failed => absurd failed (by simp [handle]), fun _ => ?_⟩
  have kept : Lossy n limit (world.disconnected cfg id cmd) :=
    ((lossy.answered scripted .cancelDisconnect (.cancel cmd.mCmd)).answered scripted .other
      (.cmdDrop cmd.mCmd)).of_eq rfl rfl rfl rfl
  have survives : Survives n world (world.disconnected cfg id cmd) :=
    (Survives.of_change fun cmd => { cmd with mCmd := none }).same rfl
  generalize world.disconnected cfg id cmd = closing at kept survives
  rw [wp_bind, invalidateStatement, wp_bind, wp_get, kept.stmt, wp_pure, wp_bind, wp_ctCall,
    wp_bind, wp_modifyConnection, wp_bind, discardMessages, wp_modify, wp_bind, wasInTransaction,
    wp_bind, wp_get, wp_pure, wp_bind, wp_when]
  have closed := kept.answered scripted .other (.close true)
  refine ⟨fun _ => ?_, fun _ => ?_⟩
  · rw [wp_raiseException]
    refine wp_dropConnection_subsides scripted ?_ (survives.same rfl)
    exact (closed.raise _ _).of_eq rfl rfl rfl rfl
  · exact wp_dropConnection_subsides scripted (closed.of_eq rfl rfl rfl rfl) (survives.same rfl)

/-- Destroying a command that is there leaves those below a number it is not below; where its cancel
fails the process is terminated. -/
theorem subsides_destroy (lossy : Lossy n limit world) (there : (world.commands id).isSome)
    (above : n ≤ id) : Subsides n limit (Command.destroy cfg id) (fun _ _ => True) world := by
  obtain ⟨cmd, held⟩ := Option.isSome_iff_exists.mp there
  have canceled : Lossy n limit (world.canceled cfg cmd) ∧
      Survives n world (world.canceled cfg cmd) := by
    unfold World.canceled
    split
    · exact ⟨lossy.answered scripted _ _, .of_eq rfl⟩
    · exact ⟨lossy, .of_eq rfl⟩
  have removed : ∀ last : World (List Reply), Survives n last (last.removed id) := fun last =>
    .of_update above none rfl
  rw [Subsides, Reaches, wp_destroy held]
  split
  · split
    · exact ⟨_, canceled.2, rfl⟩
    · refine ⟨trans_of (Survives n) (trans_of (Survives n) canceled.2 ?_) (removed _), ?_, trivial⟩
      · exact (Survives.of_change fun cmd => { cmd with mCmd := none }).same rfl
      · exact (canceled.1.answered scripted .other (.cmdDrop cmd.mCmd)).of_eq rfl rfl rfl rfl
  · exact ⟨removed world, lossy.of_eq rfl rfl rfl rfl, trivial⟩

end Commands

/-! ### The query of a new connection -/

/-- The query for the version of the server has nothing to replace. -/
theorem initQuery_verStr : initQuery cfg verStr none false = pure (some ⟨verStr, [], []⟩) := rfl

/-- With an exception pending, no result is asked for. -/
theorem wp_readOutputOnce_raised {reconnect : Reconnect (List Reply)} (raised : world.xsink ≠ [])
    (list cols singleRow : Bool) (rf : ResultFactory) :
    wp (readOutputOnce cfg reconnect id list cols singleRow rf)
      (fun result after => result = .inr .nothing ∧ after = world) noThrow noHalt world := by
  have pending : world.xsink.isEmpty = false := List.isEmpty_eq_false_iff.mpr raised
  rw [readOutputOnce, wp_bind, Connection.readNextResult, wp_bind, wp_isException, pending]
  rw [if_pos (by rfl), wp_pure, wp_bind, wp_isException, pending]
  exact ⟨rfl, rfl⟩

/-- With an exception pending, nothing is read. -/
theorem wp_readOutput_raised {reconnect : Reconnect (List Reply)} (raised : world.xsink ≠ [])
    (enough : 0 < cfg.fuel) (list cols singleRow : Bool) :
    wp (readOutput cfg reconnect id list cols singleRow)
      (fun value after => value = .nothing ∧ after = world) noThrow noHalt world := by
  obtain ⟨fuel, passes⟩ := Nat.exists_eq_add_one_of_ne_zero (Nat.ne_of_gt enough)
  rw [readOutput, passes, wp_iterate_succ]
  refine wp_mono_ok (wp_readOutputOnce_raised raised list cols singleRow _) ?_
  rintro _ _ ⟨rfl, rfl⟩
  exact ⟨rfl, rfl⟩

/-- A reconnect that fails with the exception pending that it began with. -/
def FailsLost (limit : Nat) (reconnect : Reconnect (List Reply)) : Prop :=
  ∀ (n : CommandId) (id : CommandId) (tryReconnect : Bool) (world : World (List Reply)),
    Lossy n limit world → Held id (fun _ => True) world → id < n →
      Subsides n limit (reconnect id tryReconnect) (fun result _ => result ≠ 0) world

section Queries

variable (scripted : cfg.IsScripted) {reconnect : Reconnect (List Reply)}
  (fails : FailsLost limit reconnect)
include scripted fails

/-- Where sending fails there is no other try. -/
theorem subsides_sendOrReconnect (lossy : Lossy n limit world)
    (held : Held id (fun _ => True) world) (below : id < n) :
    Subsides n limit (sendOrReconnect cfg reconnect id) (fun sent _ => sent = true) world := by
  have sends : Reaches (Survives n) Terminates (do send cfg id; Pure.pure true)
      (fun sent after => Lossy n limit after ∧ sent = true)
      (fun after => Lossy n limit after ∧ Held id (fun _ => True) after) world := by
    rw [Reaches, wp_bind, send, wp_bind]
    refine held.wp_getCommand fun cmd _ _ _ => ?_
    rw [wp_bind, wp_ctCall, wp_when, wp_doException]
    have sent := lossy.answered scripted .other (.send cmd.mCmd)
    exact ⟨fun _ => ⟨.of_eq rfl, sent.of_eq rfl rfl rfl rfl, held⟩,
      fun _ => ⟨.of_eq rfl, sent, rfl⟩⟩
  refine sends.tryCatch ?_
  rintro error failed ⟨lossy, held⟩
  have pings : Reaches (Survives n) Terminates (ping cfg)
      (fun _ after => Lossy n limit after ∧ Held id (fun _ => True) after) (Lossy n limit) failed :=
    Reaches.call (.of_eq rfl) (Reaches.pure ⟨lossy.answered scripted .other .conStatus, held⟩)
  refine pings.bind ?_
  rintro connected asked ⟨lossy, held⟩
  split
  · exact Reaches.throw lossy
  · refine Reaches.bind (fails n id true asked lossy held below) ?_
    rintro result after ⟨lossy, nonzero⟩
    rw [if_pos nonzero]
    exact Reaches.throw lossy

omit fails in
/-- A command is told its text, or an error is thrown; one without a handle throws. -/
theorem subsides_initiateLanguageCommand {cmdText : Text} (nonempty : cmdText.isEmpty = false)
    (lossy : Lossy n limit world) (there : (world.commands id).isSome) :
    Reaches (Survives n) Terminates (initiateLanguageCommand cfg id cmdText)
      (fun _ after => Lossy n limit after ∧ Held id (fun _ => True) after)
      (Lossy n limit) world := by
  obtain ⟨cmd, present⟩ := Option.isSome_iff_exists.mp there
  rw [Reaches, initiateLanguageCommand, wp_bind, wp_assert]
  refine ⟨fun failed => absurd failed (by simp [nonempty]), fun _ => ?_⟩
  rw [wp_bind, wp_getCommand_some present, wp_bind, wp_ctCall, wp_when, wp_doException]
  have told := lossy.answered scripted .other (.command cmd.mCmd cmdText)
  refine ⟨fun _ => ⟨.of_eq rfl, told.of_eq rfl rfl rfl rfl⟩, fun succeeded =>
    ⟨.of_eq rfl, told, cmd, present, ?_, trivial⟩⟩
  cases handle : cmd.mCmd with
  | some handle => rfl
  | none => exact absurd (by rw [handle]; simp [CtLib.reply, CtCall.command?]) succeeded

/-- A query without arguments is bound and sent, or an error is thrown. -/
theorem subsides_bindAndSend {query : SybaseQuery} (nonempty : query.mCmd.isEmpty = false)
    (lossy : Lossy n limit world) (there : (world.commands id).isSome) (below : id < n) :
    Subsides n limit (do bindQuery cfg id query none; sendOrReconnect cfg reconnect id)
      (fun sent _ => sent = true) world := by
  have changes (n : CommandId) : Survives n world { world with
      commands := Function.update world.commands id ((world.commands id).map fun cmd =>
        { cmd with query := some query }) } := Survives.of_change _
  have binds : Reaches (Survives n) Terminates (bindQuery cfg id query none)
      (fun _ after => Lossy n limit after ∧ Held id (fun _ => True) after)
        (Lossy n limit) world := by
    refine Reaches.modify (changes n) (Reaches.bind ?_ fun _ _ post => Reaches.pure post)
    exact subsides_initiateLanguageCommand scripted nonempty (lossy.of_eq rfl rfl rfl rfl)
      (changes (id + 1) id (Nat.lt_succ_self id) there)
  refine binds.bind ?_
  rintro _ bound ⟨lossy, held⟩
  exact subsides_sendOrReconnect scripted fails lossy held below

/-- One pass of setting up the query for the version makes a command and sends it. -/
theorem subsides_setupCommandOnce (lossy : Lossy n limit world) :
    Subsides n limit (setupCommandOnce cfg reconnect verStr none false)
      (fun result after => ∃ id, result = .inr (some id) ∧ n ≤ id ∧ (after.commands id).isSome)
      world := by
  have above : n ≤ world.nextCommand := lossy.known
  have created : Lossy (world.nextCommand + 1) limit (world.allocated cfg) :=
    ⟨allocated_xsink lossy.raised, lossy.stmt, Nat.le_refl _,
      Nat.le_trans (scripted.length_le _ _) lossy.short⟩
  have there : ((world.allocated cfg).commands world.nextCommand).isSome := by
    simp [World.allocated]
  have survives : Survives n world (world.allocated cfg) := .of_update above _ rfl
  have nonempty : (⟨verStr, [], []⟩ : SybaseQuery).mCmd.isEmpty = false := rfl
  rw [Subsides, Reaches, setupCommandOnce, initQuery_verStr, wp_bind, wp_pure]
  dsimp only
  rw [wp_bind, wp_create]
  refine Reaches.after ?_ survives
  have sends := (subsides_bindAndSend scripted fails nonempty created there
    (Nat.lt_succ_self world.nextCommand)).present there above
  refine (sends.cleanedUp fun after post => ?_).bind ?_
  · exact (subsides_destroy scripted post.1 post.2 above).mono (fun _ _ post => post.1)
      fun _ post => post
  · rintro sent after ⟨⟨lossy, there⟩, rfl⟩
    exact Reaches.pure ⟨lossy, world.nextCommand, rfl, above, there⟩

/-- The first pass sets up the query for the version. -/
theorem subsides_setupCommand (lossy : Lossy n limit world) (enough : 0 < cfg.fuel) :
    Subsides n limit (setupCommand cfg reconnect verStr none false)
      (fun cmd after => ∃ id, cmd = some id ∧ n ≤ id ∧ (after.commands id).isSome) world := by
  obtain ⟨fuel, passes⟩ := Nat.exists_eq_add_one_of_ne_zero (Nat.ne_of_gt enough)
  rw [setupCommand, passes]
  refine (subsides_setupCommandOnce scripted fails lossy).bind ?_
  rintro _ after ⟨lossy, id, rfl, there⟩
  exact Reaches.pure ⟨lossy, id, rfl, there⟩

/-- With an exception pending the query for the version reads nothing. -/
theorem subsides_execReadOutput (lossy : Lossy n limit world) (enough : 0 < cfg.fuel) :
    Subsides n limit (execReadOutput cfg reconnect verStr none true true false false)
      (fun value _ => value = .nothing) world := by
  have invalidated : wp (invalidateStatement cfg) (fun _ after => after = world) noThrow noHalt
      world := by
    rw [invalidateStatement, wp_bind, wp_get, lossy.stmt]
    rfl
  have reads : Subsides n limit (do
      let cmd ← setupCommand cfg reconnect verStr none false
      ensure (do
          let result ← readOutputOption cfg reconnect cmd true false false
          if ← isException then Pure.pure .nothing else Pure.pure result)
        (destroyOption cfg cmd)) (fun value _ => value = .nothing) world := by
    refine (subsides_setupCommand scripted fails lossy enough).bind ?_
    rintro _ sent ⟨lossy, id, rfl, above, there⟩
    rw [Reaches, wp_ensure, wp_bind]
    refine wp_mono (wp_readOutput_raised lossy.raised enough true false false) ?_
      (fun _ _ => False.elim)
      fun _ _ => False.elim
    rintro _ _ ⟨rfl, rfl⟩
    rw [wp_bind, wp_isException, ite_self, wp_pure]
    exact wp_mono_ok (subsides_destroy scripted lossy there above)
      fun _ _ post => ⟨post.1, post.2.1, rfl⟩
  rw [Subsides, Reaches, execReadOutput, wp_bind]
  refine wp_mono invalidated ?_ (fun _ _ => False.elim) fun _ _ => False.elim
  rintro _ _ rfl
  exact reads

/-- The version of the server is not found out. -/
theorem subsides_setEncoding (lossy : Lossy n limit world) (enough : 0 < cfg.fuel) :
    Subsides n limit (setEncoding cfg reconnect) (fun _ _ => True) world := by
  have version : Subsides n limit (getServerVersion cfg reconnect) (fun _ _ => True) world := by
    refine (subsides_execReadOutput scripted fails lossy enough).bind ?_
    rintro _ after ⟨lossy, rfl⟩
    exact Reaches.pure ⟨lossy, trivial⟩
  refine version.bind fun version after post => Reaches.isException ?_
  rw [List.isEmpty_eq_false_iff.mpr post.1.raised]
  exact Reaches.pure post

end Queries

/-! ### Reconnecting -/

section Connecting

variable (scripted : cfg.IsScripted)
include scripted

/-- Connecting keeps the exception pending. -/
theorem lossy_connectStable :
    ConnectStable cfg (Holding (Lossy n limit) (Survives n)) where
  raise _ err desc lossy := ⟨lossy.raise err desc, .of_eq rfl⟩
  discard _ lossy := ⟨lossy.of_eq rfl rfl rfl rfl, .of_eq rfl⟩
  call _ call _ lossy := ⟨lossy.answered scripted .other call, .of_eq rfl⟩
  connection _ _ _ stmt _ lossy := ⟨lossy.of_eq rfl stmt rfl rfl, .of_eq rfl⟩

variable (enough : 0 < cfg.fuel) {reconnect : Reconnect (List Reply)}
include enough

/-- A handle takes an answer, so the queries of the new connection have fewer answers left. -/
theorem subsides_init (fails : ∀ fewer < limit, FailsLost fewer reconnect)
    (lossy : Lossy n limit world) (closed : world.connection.mConnection = none) :
    Subsides n limit (init cfg reconnect) (fun _ _ => True) world := by
  rw [Subsides, Reaches, init, wp_bind, wp_get, wp_bind, wp_assert]
  refine ⟨fun failed => absurd failed (by simp [closed]), fun _ => ?_⟩
  rw [wp_bind, wp_modifyConnection, wp_bind, wp_ctCall]
  split
  · rw [wp_bind, wp_raiseException]
    refine ⟨.of_eq rfl, ?_, trivial⟩
    exact ((lossy.answered scripted .other (.conAlloc world.nextConnection)).raise _ _).of_eq rfl
      rfl
      rfl rfl
  · rename_i succeeded
    have taken := scripted.length_lt (.conAlloc world.nextConnection) world.env
      (by simp [not_not.mp succeeded])
    generalize limited : (cfg.lib.reply (.conAlloc world.nextConnection) world.env).2.length = fewer
      at taken
    have less : fewer < limit := Nat.lt_of_lt_of_le taken lossy.short
    have encoding : Keeps (Holding (Lossy n fewer) (Survives n))
        (StopsHolding (Lossy n fewer) fun reason _ => reason = .terminate)
        (setEncoding cfg reconnect) := by
      refine keeps_holding fun state lossy =>
        wp_mono (subsides_setEncoding scripted (fails fewer less) lossy enough)
          (fun _ _ post => ⟨post.2.1, post.1⟩) (fun _ _ post => ⟨post.2, post.1⟩) ?_
      rintro reason last ⟨_, _, terminated⟩
      exact terminated
    have stable : ConnectStable cfg (Holding (Lossy n fewer) (Survives n)) :=
      lossy_connectStable scripted
    have opened : Lossy n fewer (world.answered cfg.lib .other (.conAlloc world.nextConnection)) :=
      ⟨lossy.raised, lossy.stmt, lossy.known, Nat.le_of_eq limited⟩
    rw [wp_bind, wp_modify]
    refine wp_mono (Keeps.holding (stable.configureStable.keeps_initCall rfl _ _ <|
      stable.configureStable.keeps_initCall rfl _ _ <|
      stable.configureStable.keeps_initCall rfl _ _
        (stable.configureStable.keeps_initPassword encoding))
      (opened.of_eq rfl rfl rfl rfl)) ?_ ?_ ?_
    · exact fun _ _ post => ⟨post.2, post.1.weaken (Nat.le_refl n) (Nat.le_of_lt less), trivial⟩
    · exact fun _ _ post => ⟨post.2, post.1.weaken (Nat.le_refl n) (Nat.le_of_lt less)⟩
    · exact fun _ _ terminated => ⟨world, refl_of (Survives n) world, terminated⟩

/-- Connecting fails with an exception pending. -/
theorem subsides_reopenConnection (fails : ∀ fewer < limit, FailsLost fewer reconnect)
    (keeps : ∀ id tryReconnect, Keeps SinkKept StopsAnyhow (reconnect id tryReconnect))
    (tryReconnect : Bool) (lossy : Lossy n limit world)
    (closed : world.connection.mConnection = none) :
    Subsides n limit (reopenConnection cfg reconnect tryReconnect) (fun result _ => result ≠ 0)
      world := by
  have connects : Subsides n limit (nested (init cfg reconnect))
      (fun result _ => result = -1) world := by
    have deeper : Lossy n limit { world with depth := world.depth + 1 } :=
      lossy.of_eq rfl rfl rfl rfl
    refine (wp_nested _).mpr (wp_mono (Program.wp_and
      (subsides_init scripted enough fails deeper closed)
      (SinkKept.refuses_init keeps _ deeper.raised)) ?_ ?_ ?_)
    · exact fun _ _ post => ⟨post.1.1, post.1.2.1.of_eq rfl rfl rfl rfl, post.2.1⟩
    · exact fun _ _ post => ⟨post.1.1, post.1.2.of_eq rfl rfl rfl rfl⟩
    · exact fun _ _ post => post.1
  refine connects.bind ?_
  rintro _ opened ⟨lossy, rfl⟩
  exact Reaches.modify (.of_eq rfl)
    (Reaches.pure ⟨lossy.of_eq rfl rfl rfl rfl, (by decide : (-1 : Int) ≠ 0)⟩)

/-- A reconnect ends with the exception pending that it began with. -/
theorem fails_closeAndReconnect (bound : Nat) :
    ∀ limit < bound, FailsLost limit (closeAndReconnect cfg bound) := by
  induction bound with
  | zero => exact fun _ less => absurd less (Nat.not_lt_zero _)
  | succ bound inductionHypothesis =>
    intro limit less n id tryReconnect world lossy held below
    have fails : ∀ fewer < limit, FailsLost fewer (closeAndReconnect cfg bound) :=
      fun fewer less' =>
      inductionHypothesis fewer (Nat.lt_of_lt_of_le less' (Nat.le_of_lt_succ less))
    have closes : Reaches (Survives n) Terminates (closeConnection cfg id)
        (fun _ after => Lossy n limit after ∧ after.connection.mConnection = none) (Lossy n limit)
        (world.record .other (.lost tryReconnect)) :=
      wp_mono (wp_closeConnection_subsides scripted (lossy.of_eq rfl rfl rfl rfl) held)
        (fun _ _ post => post) (fun _ _ => False.elim) fun _ _ => False.elim
    rw [closeAndReconnect]
    refine Reaches.modify (.of_eq rfl) (closes.bind ?_)
    rintro _ closed ⟨lossy, none⟩
    refine (subsides_reopenConnection scripted enough fails
      (SinkKept.keeps_closeAndReconnect cfg bound) tryReconnect lossy none).bind ?_
    rintro result opened ⟨lossy, nonzero⟩
    exact Reaches.modify (.of_eq rfl) (Reaches.pure ⟨lossy.of_eq rfl rfl rfl rfl, nonzero⟩)

end Connecting

/-! ### Reading -/

/-- The state in which the results of a command are read: the command was made and holds its handle,
and no statement is registered. -/
structure Ready (id : CommandId) (world : World (List Reply)) : Prop where
  held : Held id Fits world
  made : id < world.nextCommand
  stmt : world.connection.stmt = none

/-- Reading the command leaves it ready. -/
theorem Ready.reads (ready : Ready id world) (reads : Reads id world after)
    (held : Held id Fits after) :
    Ready id after :=
  ⟨held, reads.nextCommand ▸ ready.made, reads.connection ▸ ready.stmt⟩

section SettingUp

/-- Binding a query leaves the handle and the columns of the command as they were. -/
structure Untouched (id : CommandId) (world after : World (List Reply)) : Prop where
  own : ∀ cmd, world.commands id = some cmd → ∃ cmd', after.commands id = some cmd' ∧
    cmd'.mCmd = cmd.mCmd ∧ cmd'.colinfo = cmd.colinfo
  nextCommand : after.nextCommand = world.nextCommand
  connection : after.connection = world.connection

namespace Untouched

theorem of_eq (commands : after.commands = world.commands)
    (nextCommand : after.nextCommand = world.nextCommand)
    (connection : after.connection = world.connection) : Untouched id world after :=
  ⟨fun cmd held => ⟨cmd, commands ▸ held, rfl, rfl⟩, nextCommand, connection⟩

instance : Std.Refl (Untouched id) := ⟨fun _ => of_eq rfl rfl rfl⟩

instance : IsTrans (World (List Reply)) (Untouched id) := ⟨fun _ _ _ first second => by
  refine ⟨fun cmd held => ?_, second.nextCommand.trans first.nextCommand,
    second.connection.trans first.connection⟩
  obtain ⟨cmd', held', handle, colinfo⟩ := first.own cmd held
  obtain ⟨cmd'', held'', handle', colinfo'⟩ := second.own cmd' held'
  exact ⟨cmd'', held'', handle'.trans handle, colinfo'.trans colinfo⟩⟩

theorem bindStable (cfg : Config (List Reply)) (id : CommandId) :
    BindStable cfg id (Untouched id) StopsAnyhow where
  raise _ _ _ := of_eq rfl rfl rfl
  discard _ := of_eq rfl rfl rfl
  halts _ _ _ := trivial
  bind _ _ _ := of_eq rfl rfl rfl
  query world query :=
    ⟨fun cmd held => ⟨{ cmd with query := some query }, by simp [held], rfl, rfl⟩, rfl, rfl⟩

end Untouched

/-- A command that is sent is ready; where the connection was lost no statement is registered. -/
theorem wp_sendOrReconnect_ready {cmd : Command} (bound : Nat) (held : world.commands id = some cmd)
    (dirty : cmd.colinfo.dirty = true) (made : id < world.nextCommand)
    (unregistered : world.connection.stmt = none) :
    wp (sendOrReconnect cfg (closeAndReconnect cfg bound) id)
      (fun sent after => after.connection.stmt = none ∧ (sent = true → Ready id after)) anyThrow
      (fun _ _ => True) world := by
  rw [sendOrReconnect, wp_tryCatch, wp_bind, send, wp_bind, wp_getCommand_some held, wp_bind,
    wp_ctCall, wp_when, wp_doException]
  refine ⟨fun _ => ?_, fun succeeded => ⟨unregistered, fun _ => ⟨⟨cmd, held, ?_, ?_⟩, made,
    unregistered⟩⟩⟩
  · rw [ping, wp_bind, wp_bind, wp_ctCall, wp_pure]
    split
    · trivial
    · rw [wp_bind]
      refine wp_mono (Unregistered.keeps_closeAndReconnect cfg bound id true _)
        (fun result after none => ?_) (fun _ _ _ => trivial) fun _ _ _ => trivial
      split
      · trivial
      · exact ⟨none unregistered, by simp⟩
  · cases handle : cmd.mCmd with
    | some handle => rfl
    | none => exact absurd (by rw [handle]; simp [CtLib.reply, CtCall.command?]) succeeded
  · exact fun clean => absurd (dirty.symm.trans clean) (by decide)

/-- A command that was sent is ready to be read. -/
theorem wp_setupCommandOnce_ready (bound : Nat) (cmdText : Text) (args : Option (List QoreValue))
    (raw : Bool) (unregistered : world.connection.stmt = none) :
    wp (setupCommandOnce cfg (closeAndReconnect cfg bound) cmdText args raw)
      (fun result after => after.connection.stmt = none ∧ ∀ id, result = .inr (some id) →
        Ready id after)
      anyThrow (fun _ _ => True) world := by
  have stable := Unregistered.stable cfg
  rw [setupCommandOnce, wp_bind]
  refine wp_mono (stable.toBaseStable.keeps_initQuery cmdText args raw world)
    (fun result scanned none => ?_) (fun _ _ _ => trivial) fun _ _ _ => trivial
  have unregistered := none unregistered
  split
  · exact ⟨unregistered, by simp⟩
  · rename_i query
    rw [wp_bind, wp_create, wp_bind, wp_onThrow, wp_bind]
    refine wp_mono ((Untouched.bindStable cfg scanned.nextCommand).keeps_bindQuery query args _) ?_
      (fun _ _ _ => wp_trivial _ _) fun _ _ _ => trivial
    rintro _ bound' untouched
    obtain ⟨cmd, held, -, colinfo⟩ := untouched.own _ (Function.update_self _ _ _)
    refine wp_mono (wp_sendOrReconnect_ready bound held (by rw [colinfo])
      (untouched.nextCommand ▸ Nat.lt_succ_self _) (untouched.connection ▸ unregistered)) ?_
      (fun _ _ _ => wp_trivial _ _) fun _ _ _ => trivial
    rintro sent after ⟨none, ready⟩
    split
    · rename_i isSent
      refine ⟨none, fun id same => ?_⟩
      cases same
      exact ready isSent
    · rw [wp_bind]
      refine wp_mono ((stable.destroyStable scanned.nextCommand).keeps_destroy after)
        (fun _ _ kept => ⟨kept none, by simp⟩) (fun _ _ _ => trivial) fun _ _ _ => trivial

/-- The command that `execReadOutput` reads is ready. -/
theorem wp_setupCommand_ready (bound : Nat) (cmdText : Text) (args : Option (List QoreValue))
    (raw : Bool) (unregistered : world.connection.stmt = none) :
    wp (setupCommand cfg (closeAndReconnect cfg bound) cmdText args raw)
      (fun cmd after => ∀ id, cmd = some id → Ready id after) anyThrow (fun _ _ => True) world := by
  refine wp_iterate (fun _ state => state.connection.stmt = none) (fun _ _ _ => trivial)
    (fun _ state unregistered => ?_) _ _ _ unregistered
  refine wp_mono_ok (wp_setupCommandOnce_ready bound cmdText args raw unregistered) ?_
  rintro (again | cmd) after ⟨none, ready⟩
  · exact none
  · exact fun id same => ready id (by rw [same])

end SettingUp

/-- How the process stops while results are read: at a value whose length does not fit its type,
before any loss is found, or by an error that leaves a destructor. -/
def StopsReading (cfg : Config (List Reply)) (world : World (List Reply)) (reason : Halt)
    (after : World (List Reply)) : Prop :=
  StopsAtValue cfg reason after ∧ Silent world after ∨ reason = .terminate

section Reading

variable (scripted : cfg.IsScripted)
include scripted

/-- What is done with a result ends; where reading goes on, answers were taken. -/
theorem wp_readOutputResult_ends (list cols singleRow : Bool) (rf : ResultFactory) (rt : ResType)
    (held : Held id Fits world) (enough : world.env.length < cfg.fuel)
    (short : world.env.length ≤ limit) (taken : rt = .resDone → world.env.length < limit) :
    wp (readOutputResult cfg id list cols singleRow rf rt)
      (fun result after => ∀ again, result = .inl again →
        Held id Fits after ∧ after.env.length < limit)
      anyThrow (StopsAtValue cfg) world := by
  have nothing : ∀ (value : QoreValue) (after : World (List Reply)) (again : ResultFactory),
      (.inr value : ResultFactory ⊕ QoreValue) = .inl again →
        Held id Fits after ∧ after.env.length < limit := fun _ _ _ same =>
    absurd same (by simp)
  rw [readOutputResult.eq_def]
  split
  · exact nothing _ _
  · rw [wp_bind]
    refine wp_mono_ok (wp_retrColinfo_ends scripted held) ?_
    rintro failed retrieved ⟨held, fewer, -⟩
    split
    · exact nothing _ _
    · rw [wp_bind]
      refine held.wp_getCommand fun cmd _ _ _ => ?_
      split
      · trivial
      · rw [wp_bind]
        refine wp_mono_ok (wp_readRows_ends scripted _ false held (Nat.lt_trans fewer enough)) ?_
        rintro rows after ⟨held, fewer'⟩
        rw [wp_bind, wp_isException]
        split
        · exact nothing _ _
        · exact fun _ _ => ⟨held, by omega⟩
  · rw [wp_bind]
    refine wp_mono_ok (wp_readRowsOrCols_ends scripted none list cols singleRow held enough) ?_
    rintro rows after post
    rw [wp_bind, wp_isException]
    split
    · exact nothing _ _
    · rename_i quiet
      rcases post with ⟨held, fewer⟩ | ⟨raised, -⟩
      · exact fun _ _ => ⟨held, Nat.lt_of_lt_of_le fewer short⟩
      · exact absurd (by simpa using quiet) raised
  · exact nothing _ _
  · rw [wp_bind]
    exact held.wp_getCommand fun cmd _ _ _ _ _ => ⟨held, taken rfl⟩
  · rw [wp_bind]
    refine wp_mono_ok (wp_retrColinfo_ends scripted held) ?_
    rintro failed retrieved ⟨held, fewer, -⟩
    split
    · exact nothing _ _
    · rw [wp_bind]
      refine wp_mono_ok (wp_readRowsOrCols_ends scripted none list false false held
        (Nat.lt_trans fewer enough)) ?_
      rintro rows after post
      have read : Held id Fits after ∧ after.env.length ≤ retrieved.env.length :=
        post.elim (fun onward => ⟨onward.1, Nat.le_of_lt onward.2⟩) fun raised => raised.2
      rw [wp_bind, wp_modifyCommand]
      refine fun _ _ => ⟨read.1.modify (fun _ => rfl) fun _ _ dirty => absurd dirty (by simp), ?_⟩
      exact Nat.lt_of_le_of_lt read.2 (Nat.lt_of_lt_of_le fewer short)
  · rw [wp_bind, wp_doException]
    trivial

omit scripted in
/-- A program that makes no step and stops only at a value stops before any loss is found. -/
theorem wp_stopsReading {α : Type} {program : Driver (List Reply) α}
    {onOk : α → World (List Reply) → Prop} (silent : Keeps Silent StopsSilently program)
    (earlier : Silent world middle) (ends : wp program onOk anyThrow (StopsAtValue cfg) middle) :
    wp program (fun value after => onOk value after ∧ Silent world after) anyThrow
      (StopsReading cfg world) middle :=
  wp_mono (Program.wp_and ends (silent middle)) (fun _ _ post => ⟨post.1, earlier.trans post.2⟩)
    (fun _ _ _ => trivial) fun _ _ ⟨stopped, halted⟩ =>
      .inl ⟨stopped, earlier.trans (Silent.of_halted halted)⟩

/-- Reading the next result ends, also where the connection is found lost. -/
theorem wp_connectionReadNextResult_ends {bound : Nat} {base : World (List Reply)}
    (earlier : Silent base world) (ready : Ready id world)
    (quiet : world.xsink = []) (enough : world.env.length < cfg.fuel)
    (nests : world.env.length < bound) :
    wp (Connection.readNextResult cfg (closeAndReconnect cfg bound) id)
      (fun rt after => after.xsink ≠ [] ∨ (Ready id after ∧ Announced id rt world after) ∧
        Silent base after)
      anyThrow (StopsReading cfg base) world := by
  rw [Connection.readNextResult, wp_bind, wp_isException, quiet]
  rw [if_neg (by simp), wp_bind]
  refine wp_mono (Program.wp_and (Program.wp_and
    (wp_stopsReading ((Silent.quietStable cfg).readingStable id).keeps_readNextResult earlier
      (wp_readNextResult_ends scripted ready.held enough))
    ((Reads.readingStable cfg id).keeps_readNextResult world))
      (wp_readNextResult_disconnect id world))
    ?_ (fun _ _ _ => trivial) fun _ _ stopped => stopped.1.1
  rintro ⟨rt, disconnect⟩ read ⟨⟨⟨announced, silent⟩, reads⟩, pending⟩
  have readyAfter : Ready id read := ready.reads reads announced.1
  cases disconnect with
  | false => exact .inr ⟨⟨readyAfter, announced⟩, silent⟩
  | true =>
    have lossy : Lossy read.nextCommand world.env.length read :=
      ⟨pending rfl, readyAfter.stmt, Nat.le_refl _, announced.2.1⟩
    have enough' : 0 < cfg.fuel := Nat.lt_of_le_of_lt (Nat.zero_le _) enough
    dsimp only
    rw [if_pos rfl, wp_bind]
    exact wp_mono (fails_closeAndReconnect scripted enough' bound world.env.length nests
        read.nextCommand id false read lossy (announced.1.mono fun _ _ => trivial) readyAfter.made)
      (fun _ _ post => .inl post.2.1.raised) (fun _ _ _ => trivial)
      fun _ _ ⟨_, _, terminated⟩ => .inr terminated

/-- One pass of reading the output ends; where reading goes on, answers were taken. -/
theorem wp_readOutputOnce_ends {bound : Nat} {base : World (List Reply)}
    (list cols singleRow : Bool)
    (rf : ResultFactory) (earlier : Silent base world) (ready : Ready id world)
    (enough : world.env.length < cfg.fuel) (nests : world.env.length < bound) :
    wp (readOutputOnce cfg (closeAndReconnect cfg bound) id list cols singleRow rf)
      (fun result after => ∀ again, result = .inl again →
        (Ready id after ∧ after.env.length < world.env.length) ∧ Silent base after)
      anyThrow (StopsReading cfg base) world := by
  by_cases quiet : world.xsink = []
  · rw [readOutputOnce, wp_bind]
    refine wp_mono_ok (wp_connectionReadNextResult_ends scripted earlier ready quiet
      enough nests) ?_
    intro rt read post
    rw [wp_bind, wp_isException]
    split
    · exact fun again same => absurd same (by simp)
    · rename_i settled
      have empty : read.xsink = [] := by simpa using settled
      obtain ⟨⟨readyAfter, held, fewer, taken⟩, silent⟩ := post.resolve_left (not_not.mpr empty)
      refine wp_mono (Program.wp_and
        (wp_stopsReading (((Silent.quietStable cfg).readingStable id).keeps_readOutputResult list
          cols singleRow rf rt) silent
          (wp_readOutputResult_ends scripted list cols singleRow rf rt held
            (Nat.lt_of_le_of_lt fewer enough) fewer fun done => taken (.inr done)))
        ((Reads.readingStable cfg id).keeps_readOutputResult list cols singleRow rf rt read)) ?_
        (fun _ _ _ => trivial) fun _ _ stopped => stopped.1
      rintro result after ⟨⟨ends, silent⟩, reads⟩ again same
      obtain ⟨held', fewer'⟩ := ends again same
      exact ⟨⟨readyAfter.reads reads held', fewer'⟩, silent⟩
  · refine wp_mono (wp_readOutputOnce_raised quiet list cols singleRow rf) ?_
      (fun _ _ => False.elim)
      fun _ _ => False.elim
    rintro _ _ ⟨rfl, rfl⟩ again same
    exact absurd same (by simp)

/-- Reading the output of a command ends on every finite script. -/
theorem wp_readOutput_ends {bound : Nat} (list cols singleRow : Bool) (ready : Ready id world)
    (enough : world.env.length < cfg.fuel) (nests : world.env.length < bound) :
    wp (readOutput cfg (closeAndReconnect cfg bound) id list cols singleRow)
      (fun _ _ => True) anyThrow
      (StopsReading cfg world) world := by
  refine wp_iterate_variant (fun variant _ state => (Ready id state ∧ state.env.length = variant ∧
    variant ≤ world.env.length) ∧ Silent world state) ?_ cfg.fuel _ ResultFactory.empty world enough
    ⟨⟨ready, rfl, Nat.le_refl _⟩, Runs.refl world⟩
  rintro variant rf state ⟨⟨ready, rfl, below⟩, earlier⟩
  refine wp_mono_ok (wp_readOutputOnce_ends scripted list cols singleRow rf earlier ready
    (Nat.lt_of_le_of_lt below enough) (Nat.lt_of_le_of_lt below nests)) ?_
  rintro (again | value) after post
  · obtain ⟨⟨ready', fewer⟩, silent⟩ := post again rfl
    exact ⟨_, fewer, ⟨ready', rfl, Nat.le_trans (Nat.le_of_lt fewer) below⟩, silent⟩
  · trivial

end Reading

/-! ### How reading ends -/

/-- Every entry that a program writes to the log meets a condition. -/
def Writes {α : Type} (condition : Entry → Prop) (program : Driver (List Reply) α)
    (world : World (List Reply)) : Prop :=
  ∃ new, (program world).2.log = new ++ world.log ∧ ∀ entry ∈ new, condition entry

/-- The program returns or throws. Where it returns, every read has succeeded, or an exception is
pending and the value is NOTHING. -/
def EndsReporting (cfg : Config (List Reply)) (program : Driver (List Reply) QoreValue)
    (world : World (List Reply)) : Prop :=
  (∃ error, (program world).1 = .throw error) ∨
    ∃ value, (program world).1 = .ok value ∧
      (Writes (fun entry => ¬entry.IsFailedRead cfg) program world ∨
        (program world).2.xsink ≠ [] ∧ value = .nothing)

/-- A program that returns or throws writes no failed cancel. -/
theorem Extends.writes {α : Type} {program : Driver (List Reply) α}
    {outcome : Outcome Error Halt α} (run : program world = (outcome, after))
    (extended : Extends world after) : Writes (fun entry => ¬entry.IsFailedClear) program
      world := by
  obtain ⟨new, log, entries⟩ := extended.log
  rw [Writes, run]
  exact ⟨new, log, fun entry member => (entries entry member).2⟩

/-- A program that extends the log writes a cancel that failed in a destructor exactly if the error
that leaves the destructor stops the process. -/
theorem terminates_iff {α : Type} {program : Driver (List Reply) α}
    (keeps : Keeps Extends StopsAtClear program) (world : World (List Reply)) :
    (program world).1 = .halt .terminate ↔ ¬Writes (fun entry => ¬entry.IsFailedClear) program
      world := by
  obtain ⟨returned, thrown, halted⟩ := wp_iff_forall.mp (keeps world)
  rcases run : program world with ⟨value | error | reason, after⟩
  case ok =>
    exact iff_of_false (fun same => by cases same)
      (not_not.mpr ((returned value after run).writes run))
  case throw =>
    exact iff_of_false (fun same => by cases same)
      (not_not.mpr ((thrown error after run).writes run))
  case halt =>
    obtain ⟨last, extended, ⟨other, same⟩ | ⟨rfl, entry, failed, -, written⟩⟩ :=
      halted reason after run
    · refine iff_of_false (fun same => other (Outcome.halt.inj same)) (not_not.mpr ?_)
      obtain ⟨new, log, entries⟩ := extended.log
      rw [Writes, run]
      exact ⟨new, same.trans log, fun entry member => (entries entry member).2⟩
    · refine iff_of_true rfl ?_
      rintro ⟨new, log, cleared⟩
      rw [run] at log
      obtain ⟨earlier, before, -⟩ := extended.log
      have same : new = entry :: earlier := List.append_cancel_right
        (log.symm.trans (written.trans (congrArg (entry :: ·) before)))
      exact cleared entry (same ▸ List.mem_cons_self) failed

section Output

variable (scripted : cfg.IsScripted) (bound : Nat) (id : CommandId) (list cols singleRow : Bool)
  (world : World (List Reply))

/-- What `readOutput` returns is NOTHING with an exception pending, unless every read has
succeeded. -/
theorem readOutput_returned {value : QoreValue}
    (run : readOutput cfg (closeAndReconnect cfg bound) id list cols singleRow world =
      (.ok value, after)) :
    Writes (fun entry => ¬entry.IsFailedRead cfg)
        (readOutput cfg (closeAndReconnect cfg bound) id list cols singleRow) world ∨
      after.xsink ≠ [] ∧ value = .nothing := by
  obtain ⟨clean, -, -⟩ := wp_iff_forall.mp
    (reports_readOutput cfg bound id list cols singleRow world)
  obtain ⟨empty, -, -⟩ := wp_iff_forall.mp
    (wp_readOutput_nothing cfg id (closeAndReconnect cfg bound) list cols singleRow world)
  by_cases quiet : after.xsink = []
  · refine .inl ?_
    rw [Writes, run]
    exact (clean value after run quiet).2
  · exact .inr ⟨quiet, empty value after run quiet⟩

include scripted

/-- On every finite script in which the lengths of the values fit, reading the output of a command
stops the process exactly if a cancel in the destructor of a command fails. -/
theorem readOutput_stops_iff (ready : Ready id world) (enough : world.env.length < cfg.fuel)
    (nests : world.env.length < bound)
    (fits : ∀ entry ∈
      (readOutput cfg (closeAndReconnect cfg bound) id list cols singleRow world).2.log,
      ¬entry.IsUndefinedValue cfg) :
    Stops (readOutput cfg (closeAndReconnect cfg bound) id list cols singleRow world) ↔
      ¬Writes (fun entry => ¬entry.IsFailedClear)
        (readOutput cfg (closeAndReconnect cfg bound) id list cols singleRow) world := by
  have ends := wp_readOutput_ends scripted list cols singleRow ready enough nests
  have grows := (Extends.stable cfg).requestStable.keeps_readOutput
    ((Extends.stable cfg).keeps_readNextResult (Extends.keeps_closeAndReconnect cfg bound)) id
      list cols
    singleRow
  rw [← terminates_iff grows]
  generalize readOutput cfg (closeAndReconnect cfg bound) id list cols singleRow = program at *
  obtain ⟨-, -, stops⟩ := wp_iff_forall.mp ends
  rcases run : program world with ⟨value | error | reason, after⟩
  case ok => exact iff_of_false Bool.false_ne_true fun same => by cases same
  case throw => exact iff_of_false Bool.false_ne_true fun same => by cases same
  case halt =>
    rw [run] at fits
    rcases stops reason after run with ⟨⟨-, entry, rest, last, undefined⟩, -⟩ | rfl
    · exact absurd undefined (fits entry (last ▸ List.mem_cons_self))
    · exact iff_of_true rfl rfl

/-- On every finite script in which the lengths of the values fit, reading the output of a command
ends, and reports every read that fails, exactly if no cancel in the destructor of a command
fails. -/
theorem readOutput_endsReporting_iff (ready : Ready id world)
    (enough : world.env.length < cfg.fuel) (nests : world.env.length < bound)
    (fits : ∀ entry ∈
      (readOutput cfg (closeAndReconnect cfg bound) id list cols singleRow world).2.log,
      ¬entry.IsUndefinedValue cfg) :
    EndsReporting cfg (readOutput cfg (closeAndReconnect cfg bound) id list cols singleRow) world ↔
      Writes (fun entry => ¬entry.IsFailedClear)
        (readOutput cfg (closeAndReconnect cfg bound) id list cols singleRow) world := by
  refine Iff.trans ?_
    (not_iff_comm.mp (readOutput_stops_iff scripted bound id list cols singleRow world ready enough
      nests fits).symm)
  rcases run : readOutput cfg (closeAndReconnect cfg bound) id list cols singleRow world with
    ⟨value | error | reason, after⟩
  case ok =>
    refine iff_of_true (.inr ⟨value, by rw [run], ?_⟩) Bool.false_ne_true
    rw [run]
    exact readOutput_returned bound id list cols singleRow world run
  case throw => exact iff_of_true (.inl ⟨error, by rw [run]⟩) Bool.false_ne_true
  case halt =>
    refine iff_of_false ?_ (not_not.mpr rfl)
    rintro (⟨error, threw⟩ | ⟨value, returns, -⟩)
    · rw [run] at threw
      cases threw
    · rw [run] at returns
      cases returns

end Output

/-- A Datasource on which a query has been sent, with a script of answers. -/
def scriptedWorld (script : List Reply) : World (List Reply) :=
  { World.opened script with
    commands := Function.update (fun _ => none) 0
      (some ⟨some ⟨[], [], []⟩, some 0, -1, .resNone, ⟨true, []⟩, []⟩)
    nextCommand := 1
    nextHandle := 1 }

theorem ready_scriptedWorld (script : List Reply) : Ready 0 (scriptedWorld script) :=
  ⟨⟨_, rfl, rfl, fun dirty => absurd dirty (by simp)⟩, Nat.zero_lt_one, rfl⟩

/-- `ct_results` and the cancel fail, the connection is opened again, and the cancel in the
destructor of the command of its query is answered last. -/
def lostScript (last : Retcode) : List Reply :=
  [{ code := .fail }, { code := .fail }] ++ List.replicate 16 ({} : Reply) ++ [{ code := last }]

/-- The log after a program that began with an empty one is what the program wrote. -/
theorem writes_iff_of_empty {α : Type} {condition : Entry → Prop} {program : Driver (List Reply) α}
    (empty : world.log = []) :
    Writes condition program world ↔ ∀ entry ∈ (program world).2.log, condition entry := by
  constructor
  · rintro ⟨new, log, entries⟩
    rwa [log, empty, List.append_nil]
  · exact fun entries => ⟨_, by rw [empty, List.append_nil], entries⟩

/-- An entry that is a value. -/
def Entry.isValue (entry : Entry) : Bool :=
  match entry.event with
  | .value _ _ => true
  | _ => false

theorem not_undefined_of_isValue {entry : Entry} (other : entry.isValue = false) :
    ¬entry.IsUndefinedValue cfg := by
  rintro ⟨datafmt, cell, event, -⟩
  simp [Entry.isValue, event] at other

/-- Whether an entry is a cancel of `command::clear` that failed. -/
def Entry.isFailedClear (entry : Entry) : Bool :=
  match entry.event with
  | .call (.cancel _) reply => entry.site = .clear && reply.code ≠ .succeed
  | _ => false

theorem Entry.isFailedClear_iff (entry : Entry) : entry.isFailedClear = true ↔
    entry.IsFailedClear := by
  constructor
  · intro failed
    rw [Entry.isFailedClear] at failed
    split at failed
    · rename_i cmd reply event
      simp at failed
      exact ⟨failed.1, cmd, reply, event, failed.2⟩
    · cases failed
  · rintro ⟨site, cmd, reply, event, failed⟩
    simp [Entry.isFailedClear, event, site, failed]

/-- A driver whose ct-lib has a script. -/
def scriptedConfig : Config (List Reply) := Config.sample (CtLib.scripted false) true 20

/-- Reading the output of the command that was sent. -/
def readLost : Driver (List Reply) QoreValue :=
  readOutput scriptedConfig (closeAndReconnect scriptedConfig 20) 0 true false false

theorem readLost_values :
    (readLost (scriptedWorld (lostScript .succeed))).2.log.all
    (fun entry => !entry.isValue) = true ∧
    (readLost (scriptedWorld (lostScript .fail))).2.log.all
    (fun entry => !entry.isValue) = true := by
  decide +kernel

theorem readLost_clears :
    (readLost (scriptedWorld (lostScript .succeed))).2.log.all (fun entry => !entry.isFailedClear) =
      true ∧
    (readLost (scriptedWorld (lostScript .fail))).2.log.any Entry.isFailedClear = true := by
  decide +kernel

/-- Where the cancel in the destructor succeeds, reading ends with an exception; where it fails, the
process is terminated. -/
theorem readOutput_endsReporting_iff_samples :
    EndsReporting scriptedConfig readLost (scriptedWorld (lostScript .succeed)) ∧
      ¬EndsReporting scriptedConfig readLost (scriptedWorld (lostScript .fail)) := by
  have settles : ∀ script : List Reply, script.length < 20 →
      (readLost (scriptedWorld script)).2.log.all (fun entry => !entry.isValue) = true →
      (EndsReporting scriptedConfig readLost (scriptedWorld script) ↔
        ∀ entry ∈ (readLost (scriptedWorld script)).2.log, ¬entry.IsFailedClear) := by
    intro script enough values
    rw [← writes_iff_of_empty rfl]
    exact readOutput_endsReporting_iff ⟨false, rfl⟩ 20 0 true false false _
      (ready_scriptedWorld script)
      enough enough fun entry member => not_undefined_of_isValue (by
        simpa using List.all_eq_true.mp values entry member)
  constructor
  · refine (settles _ (by decide) readLost_values.1).mpr fun entry member => ?_
    rw [← Entry.isFailedClear_iff]
    simpa using List.all_eq_true.mp readLost_clears.1 entry member
  · refine mt (settles _ (by decide) readLost_values.2).mp fun cleared => ?_
    obtain ⟨entry, member, failed⟩ := List.any_eq_true.mp readLost_clears.2
    exact cleared entry member (entry.isFailedClear_iff.mp failed)

/-! ### The output of a request -/

/-- The part of `execReadOutput` up to the call of `readOutput`. -/
def requestCommand (cfg : Config (List Reply)) (bound : Nat) (cmdText : Text)
    (args : Option (List QoreValue)) (doBinding : Bool) : Driver (List Reply)
    (Option CommandId) := do
  invalidateStatement cfg
  setupCommand cfg (closeAndReconnect cfg bound) cmdText args !doBinding

theorem execReadOutput_eq (bound : Nat) (cmdText : Text) (args : Option (List QoreValue))
    (needList doBinding cols singleRow : Bool) :
    execReadOutput cfg (closeAndReconnect cfg bound) cmdText args needList doBinding cols
      singleRow = (do
        let cmd ← requestCommand cfg bound cmdText args doBinding
        ensure (do
            let result ← readOutputOption cfg (closeAndReconnect cfg bound) cmd needList cols
              singleRow
            if ← isException then Pure.pure .nothing else Pure.pure result)
          (destroyOption cfg cmd)) := by
  funext world
  rw [execReadOutput, requestCommand]
  rcases run : invalidateStatement cfg world with ⟨_ | _ | _, after⟩ <;>
    simp [Bind.bind, Program.bind, run]

/-- A command that a request reads the output of is ready. -/
theorem ready_of_requestCommand {bound : Nat} {cmdText : Text} {args : Option (List QoreValue)}
    {doBinding : Bool} (sends : (requestCommand cfg bound cmdText args doBinding world).1 = .ok
      (some id)) :
    Ready id (requestCommand cfg bound cmdText args doBinding world).2 := by
  have ready : wp (requestCommand cfg bound cmdText args doBinding)
      (fun cmd after => ∀ id, cmd = some id → Ready id after) anyThrow (fun _ _ => True) world := by
    rw [requestCommand, invalidateStatement, wp_bind, wp_bind, wp_get]
    split
    · rename_i unregistered
      exact wp_setupCommand_ready bound cmdText args (!doBinding) unregistered
    · rw [wp_bind]
      refine wp_mono (wp_trivial _ _) (fun _ invalid _ => ?_) (fun _ _ _ => trivial) fun _ _ _ =>
        trivial
      exact wp_setupCommand_ready bound cmdText args (!doBinding) rfl
  exact (wp_iff_forall.mp ready).1 (some id) _ (Prod.ext sends rfl) id rfl

/-- What is asked of a program that reads: it ends, and where a call that was made or a value that
was read has failed, it ends in an error, without a value. -/
structure ReportsFailures (cfg : Config (List Reply)) (program : Driver (List Reply) QoreValue)
    (world : World (List Reply)) : Prop where
  ends : ¬Stops (program world)
  error : ¬Writes (fun entry => ¬entry.IsFailedRead cfg) program world →
    EndsInError (program world) ∧
    ∀ value, (program world).1 = .ok value → value = .nothing

/-- On every finite script in which the lengths of the values fit, the command of any request is
read to an end, every failure on the way ending it in an error without a value, exactly if no cancel
in the destructor of a command fails. -/
theorem readOutput_reportsFailures_iff (scripted : cfg.IsScripted) (bound : Nat) (cmdText : Text)
    (args : Option (List QoreValue)) (doBinding : Bool) (world : World (List Reply))
    (id : CommandId)
    (sends : (requestCommand cfg bound cmdText args doBinding world).1 = .ok (some id))
    (list cols singleRow : Bool)
    (enough : (requestCommand cfg bound cmdText args doBinding world).2.env.length < cfg.fuel)
    (nests : (requestCommand cfg bound cmdText args doBinding world).2.env.length < bound)
    (fits : ∀ entry ∈ (readOutput cfg (closeAndReconnect cfg bound) id list cols singleRow
      (requestCommand cfg bound cmdText args doBinding world).2).2.log,
        ¬entry.IsUndefinedValue cfg) :
    ReportsFailures cfg (readOutput cfg (closeAndReconnect cfg bound) id list cols singleRow)
        (requestCommand cfg bound cmdText args doBinding world).2 ↔
      Writes (fun entry => ¬entry.IsFailedClear)
        (readOutput cfg (closeAndReconnect cfg bound) id list cols singleRow)
        (requestCommand cfg bound cmdText args doBinding world).2 := by
  have stops := readOutput_stops_iff scripted bound id list cols singleRow _
    (ready_of_requestCommand sends) enough nests fits
  generalize (requestCommand cfg bound cmdText args doBinding world).2 = sent at *
  constructor
  · exact fun reports => not_not.mp fun failed => reports.ends (stops.mpr failed)
  · intro cleared
    have ends : ¬Stops (readOutput cfg (closeAndReconnect cfg bound) id list cols singleRow sent) :=
      fun stopped => stops.mp stopped cleared
    refine ⟨ends, fun failed => ?_⟩
    rcases run : readOutput cfg (closeAndReconnect cfg bound) id list cols singleRow sent with
      ⟨value | error | reason, after⟩
    case ok =>
      obtain ⟨raised, rfl⟩ :=
        (readOutput_returned bound id list cols singleRow sent run).resolve_left failed
      exact ⟨raised, fun _ same => (Outcome.ok.inj same).symm⟩
    case throw => exact ⟨trivial, fun _ same => by cases same⟩
    case halt => exact absurd rfl (run ▸ ends)

/-- A query that has been sent on an open connection, with the answers to come. -/
def awaitingWorld (script : List Reply) : World (List Reply) :=
  (requestCommand scriptedConfig 20 (text "select 1") none true
    (World.opened (List.replicate 3 ({} : Reply) ++ script))).2

theorem awaitingLost_values :
    (readLost (awaitingWorld (lostScript .succeed))).2.log.all
    (fun entry => !entry.isValue) = true := by
  decide +kernel

theorem awaitingLost_stops : ¬Stops (readLost (awaitingWorld (lostScript .succeed))) ∧
    Stops (readLost (awaitingWorld (lostScript .fail))) := by
  show ¬isHalt _ = true ∧ isHalt _ = true
  decide +kernel

/-- A connection that is lost while reading, and opened again, is reported. -/
theorem readOutput_reportsFailures_iff_lost :
    ReportsFailures scriptedConfig readLost (awaitingWorld (lostScript .succeed)) := by
  have settles : ∀ script : List Reply, script.length < 20 →
      (readLost (awaitingWorld script)).2.log.all (fun entry => !entry.isValue) = true →
      ¬Stops (readLost (awaitingWorld script)) →
      ReportsFailures scriptedConfig readLost (awaitingWorld script) := by
    intro script short values goesOn
    have sends : (requestCommand scriptedConfig 20 (text "select 1") none true
        (World.opened (List.replicate 3 ({} : Reply) ++ script))).1 = .ok (some 0) := rfl
    have fits : ∀ entry ∈ (readLost (awaitingWorld script)).2.log, ¬entry.IsUndefinedValue
        scriptedConfig :=
      fun entry member => not_undefined_of_isValue (by
        simpa using List.all_eq_true.mp values entry member)
    refine (readOutput_reportsFailures_iff ⟨false, rfl⟩ 20 (text "select 1") none true
      (World.opened (List.replicate 3 ({} : Reply) ++ script)) 0 sends true false false short short
      fits).mpr ?_
    have scripted : scriptedConfig.IsScripted := ⟨false, rfl⟩
    exact not_not.mp (mt (readOutput_stops_iff scripted 20 0 true false false (awaitingWorld script)
      (ready_of_requestCommand sends) short short fits).mpr goesOn)
  exact settles _ (by decide) awaitingLost_values awaitingLost_stops.1

/-- Whether an entry is a `ct_results` that failed. -/
def Entry.isFailedResults (entry : Entry) : Bool :=
  match entry.event with
  | .call (.results _) reply => reply.code = .fail
  | _ => false

theorem Entry.isFailedRead_of_results {entry : Entry} (failed : entry.isFailedResults = true) :
    entry.IsFailedRead cfg := by
  rw [Entry.isFailedResults] at failed
  split at failed
  · rename_i cmd reply event
    rw [Entry.IsFailedRead, event]
    have code : reply.code = .fail := by simpa using failed
    exact .inl ⟨by simp [code], by simp [code]⟩
  · cases failed

/-- A program that stops after a `ct_results` that failed does not report it. -/
theorem not_reportsFailures_of_stops {program : Driver (List Reply) QoreValue}
    (stopped : Stops (program world)) (before : world.log.any Entry.isFailedResults = false)
    (after : (program world).2.log.any Entry.isFailedResults = true) :
    ¬ReportsFailures cfg program world := by
  refine fun reports => not_endsInError_of_stops stopped (reports.error ?_).1
  rintro ⟨new, log, succeeded⟩
  rw [log, List.any_append, before, Bool.or_false] at after
  obtain ⟨entry, member, failed⟩ := List.any_eq_true.mp after
  exact succeeded entry member (Entry.isFailedRead_of_results failed)

/-- Where the cancel in the destructor fails as well, the failure of `ct_results` ends in no error:
the process is terminated. -/
theorem not_readOutput_reportsFailures :
    ¬ReportsFailures scriptedConfig readLost (awaitingWorld (lostScript .fail)) :=
  not_reportsFailures_of_stops awaitingLost_stops.2 (by decide +kernel) (by decide +kernel)

end Sybase
