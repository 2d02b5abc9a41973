/-
This file proves that the driver keeps to the order in which ct-lib takes the calls about a command,
in every run and for every ct-lib: the text of a command is set once, parameters are bound only to
a text that was accepted, the command is sent once and only after that, and results are asked for,
described and fetched only of a command whose sending succeeded. A command object that holds a
handle has been sent, except the one that is being set up; where setting it up fails, or the
connection is found lost, its handle is dropped before anything else is done.
-/

import SybaseDriver.CommandLogic
import SybaseDriver.Messages
import SybaseDriver.Operations
import SybaseDriver.Protocols

namespace Sybase

open Program Connection Protocols

variable {σ : Type} {cfg : Config σ} {world after : World σ} {id : CommandId} {cmd : Command}
  {handle : Handle} {except : Option CommandId}

/-! ### The protocol -/

/-- Where a command handle stands: it is new, its text is set, it was sent, or ct-lib refused the
text or to send it. -/
inductive CommandStage where
  | created
  | initiated
  | sent
  | refused
  deriving DecidableEq, Repr

/-- The calls about a command that a stage accepts. Every command may be canceled and dropped. -/
def CommandStage.accepts (stage : CommandStage) : CtCall → Prop
  | .command _ _ => stage = .created
  | .param _ _ _ _ _ _ | .send _ => stage = .initiated
  | .results _ | .rowCount _ | .numData _ | .describe _ _ | .bind _ _ _ | .fetch _ => stage = .sent
  | _ => True

/-- The stage of a command after a call about it. -/
def CommandStage.next (stage : CommandStage) (call : CtCall) (reply : Reply) : CommandStage :=
  match call with
  | .command _ _ => if reply.code = .succeed then .initiated else .refused
  | .send _ => if reply.code = .succeed then .sent else .refused
  | _ => stage

/-- The command handle an entry is about. -/
def Entry.about (entry : Entry) : Option Handle :=
  match entry.event with
  | .call call _ => call.command?.join
  | _ => none

/-- The protocol of ct-lib for a command. -/
def commandProtocol : Protocol Handle Entry CommandStage where
  about := Entry.about
  initial := .created
  accepts stage entry :=
    match entry.event with
    | .call call _ => stage.accepts call
    | _ => True
  next stage entry :=
    match entry.event with
    | .call call reply => stage.next call reply
    | _ => stage

/-- A command that was sent stays so. -/
theorem sent_next (entry : Entry) (accepted : commandProtocol.accepts .sent entry) :
    commandProtocol.next .sent entry = .sent := by
  obtain ⟨depth, site, event⟩ := entry
  cases event with
  | call call reply => cases call <;> first | rfl | cases accepted
  | _ => rfl

/-- The stage of a handle that a call is about, after the call. -/
theorem stage_answered (site : Site) {call : CtCall} (about : call.command? = some (some handle)) :
    commandProtocol.stage handle (world.answered cfg.lib site call).log =
      (commandProtocol.stage handle world.log).next call (cfg.lib.reply call world.env).1 :=
  Protocol.stage_cons_self (congrArg Option.join about)

/-- The calls follow the protocol, and every command that holds a handle has been sent, but for one
that may be set up at present. -/
structure Staged (except : Option CommandId) (world : World σ) : Prop where
  follows : commandProtocol.Follows world.log
  below : ∀ entry ∈ world.log, ∀ handle, entry.about = some handle → handle < world.nextHandle
  old : ∀ id cmd handle, world.commands id = some cmd → cmd.mCmd = some handle →
    handle < world.nextHandle
  sent : ∀ id cmd handle, world.commands id = some cmd → cmd.mCmd = some handle → some id ≠ except →
    commandProtocol.stage handle world.log = .sent

/-- Where the process stops, the calls have followed the protocol. -/
def Stopped (_ : Halt) (last : World σ) : Prop := commandProtocol.Follows last.log

namespace Staged

theorem of_eq (staged : Staged except world) (log : after.log = world.log)
    (commands : after.commands = world.commands) (later : world.nextHandle ≤ after.nextHandle) :
    Staged except after where
  follows := log ▸ staged.follows
  below entry member handle about :=
    Nat.lt_of_lt_of_le (staged.below entry (log ▸ member) handle about) later
  old id cmd handle held holds :=
    Nat.lt_of_lt_of_le (staged.old id cmd handle (commands ▸ held) holds) later
  sent id cmd handle held holds other :=
    log ▸ staged.sent id cmd handle (commands ▸ held) holds other

/-- Where every command has been sent, every other one has. -/
theorem weaken (staged : Staged none world) (id : CommandId) : Staged (some id) world :=
  { staged with
    sent := fun id cmd handle held holds _ => staged.sent id cmd handle held holds (by simp) }

/-- A call that is about no handle, or an event that is no call. -/
theorem recorded (staged : Staged except world) {entry : Entry} (about : entry.about = none)
    (log : after.log = entry :: world.log) (commands : after.commands = world.commands)
    (later : after.nextHandle = world.nextHandle) : Staged except after where
  follows := by
    rw [log]
    exact staged.follows.cons_of_none about
  below := by
    rw [log, later]
    refine List.forall_mem_cons.mpr ⟨fun handle same => ?_, staged.below⟩
    exact absurd (about.symm.trans same) (by simp)
  old id cmd handle held holds := later ▸ staged.old id cmd handle (commands ▸ held) holds
  sent id cmd handle held holds other := by
    rw [log, Protocol.stage_cons_of_ne (fun same => absurd (about.symm.trans same) (by simp))]
    exact staged.sent id cmd handle (commands ▸ held) holds other

theorem call_noHandle (staged : Staged except world) (cfg : Config σ) (site : Site) {call : CtCall}
    (about : call.command?.join = none) : Staged except (world.answered cfg.lib site call) := by
  have entry : (⟨world.depth, site, .call call (cfg.lib.reply call world.env).1⟩ :
      Entry).about = none :=
    about
  exact staged.recorded entry rfl rfl rfl

/-- A call about a handle that its stage accepts. -/
theorem call_handle (staged : Staged except world) (site : Site) {call : CtCall}
    (about : call.command? = some (some handle)) (old : handle < world.nextHandle)
    (accepted : (commandProtocol.stage handle world.log).accepts call) :
    Staged except (world.answered cfg.lib site call) := by
  have follows : commandProtocol.Follows (world.answered cfg.lib site call).log :=
    staged.follows.cons_of_accepts (congrArg Option.join about) accepted
  refine ⟨follows, ?_, staged.old, fun id cmd other held holds isOther => ?_⟩
  · refine List.forall_mem_cons.mpr ⟨fun other same => ?_, staged.below⟩
    cases (congrArg Option.join about).symm.trans same
    exact old
  · exact follows.stage_cons sent_next (staged.sent id cmd other held holds isOther)

/-- A call about the handle of a command, or about none where the command holds none. -/
theorem call_command (staged : Staged except world) (cfg : Config σ) (site : Site) {call : CtCall}
    (held : world.commands id = some cmd) (about : call.command? = some cmd.mCmd)
    (accepted : ∀ handle, cmd.mCmd = some handle →
      (commandProtocol.stage handle world.log).accepts call) :
    Staged except (world.answered cfg.lib site call) := by
  cases holds : cmd.mCmd with
  | none => exact staged.call_noHandle cfg site (by rw [about, holds]; rfl)
  | some handle =>
    exact staged.call_handle site (by rw [about, holds]) (staged.old id cmd handle held holds)
      (accepted handle holds)

/-- A change of a command that keeps its handle, or takes it away. -/
theorem change (staged : Staged except world) {change : Command → Command}
    (same : ∀ cmd handle, (change cmd).mCmd = some handle → cmd.mCmd = some handle) :
    Staged except { world with
      commands := Function.update world.commands id ((world.commands id).map change) } := by
  have before : ∀ {other cmd handle}, Function.update world.commands id
      ((world.commands id).map change) other = some cmd → cmd.mCmd = some handle →
      ∃ cmd', world.commands other = some cmd' ∧ cmd'.mCmd = some handle := by
    intro other cmd handle held holds
    by_cases isId : other = id
    · subst isId
      simp only [Function.update_self, Option.map_eq_some_iff] at held
      obtain ⟨cmd', held, rfl⟩ := held
      exact ⟨cmd', held, same cmd' handle holds⟩
    · exact ⟨cmd, by simpa [isId] using held, holds⟩
  refine ⟨staged.follows, staged.below, fun other cmd handle held holds => ?_,
    fun other cmd handle held holds isOther => ?_⟩
  · obtain ⟨cmd', held', holds'⟩ := before held holds
    exact staged.old other cmd' handle held' holds'
  · obtain ⟨cmd', held', holds'⟩ := before held holds
    exact staged.sent other cmd' handle held' holds' isOther

/-! ### Reading -/

theorem baseStable : BaseStable (Preserves (Staged (σ := σ) none))
    (StopsHolding (Staged none) Stopped) where
  raise _ _ _ staged := staged.of_eq rfl rfl (Nat.le_refl _)
  discard _ staged := staged.of_eq rfl rfl (Nat.le_refl _)
  halts _ _ _ staged := staged.follows

theorem readingStable (cfg : Config σ) (id : CommandId) :
    ReadingStable cfg id (Preserves (Staged none)) (StopsHolding (Staged none) Stopped) where
  toBaseStable := baseStable
  call site call _ held reading about staged := by
    refine staged.call_command cfg site held about fun handle holds => ?_
    rw [staged.sent id _ handle held holds (by simp)]
    cases call <;> first | rfl | trivial
  value _ _ _ staged := staged.recorded rfl rfl rfl rfl
  modify _ _ same staged := staged.change fun cmd handle holds => (same cmd).1 ▸ holds

end Staged

/-! ### Setting up a command -/

/-- A command is set up at present, and its handle, if it holds one, is at a stage. -/
structure SettingUp (id : CommandId) (stage : CommandStage) (world : World σ) : Prop
    extends Staged (some id) world where
  stage : ∀ cmd handle, world.commands id = some cmd → cmd.mCmd = some handle →
    commandProtocol.stage handle world.log = stage

namespace SettingUp

variable {stage : CommandStage}

theorem of_eq (setting : SettingUp id stage world) (log : after.log = world.log)
    (commands : after.commands = world.commands) (later : world.nextHandle ≤ after.nextHandle) :
    SettingUp id stage after where
  toStaged := setting.toStaged.of_eq log commands later
  stage cmd handle held holds := log ▸ setting.stage cmd handle (commands ▸ held) holds

/-- A new command is at the first stage. -/
theorem allocated (staged : Staged none world) (cfg : Config σ) :
    SettingUp world.nextCommand .created (world.allocated cfg) := by
  have entry : (⟨world.depth, .other, .call (.cmdAlloc world.nextHandle)
      (cfg.lib.reply (.cmdAlloc world.nextHandle) world.env).1⟩ : Entry).about = none := rfl
  have held : (world.allocated cfg).commands world.nextCommand =
      some ⟨none, world.newHandle cfg, -1, .resNone, ⟨true, []⟩, []⟩ := Function.update_self _ _ _
  have other : ∀ {id}, id ≠ world.nextCommand →
      (world.allocated cfg).commands id = world.commands id :=
    fun isOther => Function.update_of_ne isOther _ _
  have new : ∀ {handle}, world.newHandle cfg = some handle → handle = world.nextHandle := by
    intro handle isNew
    rw [World.newHandle] at isNew
    split at isNew
    · exact (Option.some_inj.mp isNew).symm
    · cases isNew
  have called : Staged none (world.answered cfg.lib .other (.cmdAlloc world.nextHandle)) :=
    staged.recorded entry rfl rfl rfl
  refine ⟨⟨called.follows, fun event member handle about =>
    Nat.lt_succ_of_lt (called.below event member handle about), fun id cmd handle held' holds => ?_,
    fun id cmd handle held' holds isOther => ?_⟩, fun cmd handle held' holds => ?_⟩
  · by_cases isNew : id = world.nextCommand
    · cases held.symm.trans (isNew ▸ held')
      exact new holds ▸ Nat.lt_succ_self _
    · exact Nat.lt_succ_of_lt (staged.old id cmd handle ((other isNew).symm.trans held') holds)
  · have isOther' : id ≠ world.nextCommand := fun same => isOther (congrArg some same)
    exact called.sent id cmd handle ((other isOther').symm.trans held') holds (by simp)
  · cases held.symm.trans held'
    refine Protocol.stage_eq_initial fun event member about => ?_
    exact absurd (called.below event member handle about) (by rw [new holds]; exact Nat.lt_irrefl _)

/-- A call about the command that is set up, which its stage accepts. -/
theorem call_command (setting : SettingUp id stage world) (cfg : Config σ) (site : Site)
    {call : CtCall} (held : world.commands id = some cmd) (about : call.command? = some cmd.mCmd)
    (accepted : stage.accepts call) :
    SettingUp id (stage.next call (cfg.lib.reply call world.env).1)
      (world.answered cfg.lib site call) where
  toStaged := setting.toStaged.call_command cfg site held about fun handle holds =>
    (setting.stage cmd handle held holds).symm ▸ accepted
  stage cmd' handle held' holds := by
    cases held.symm.trans held'
    rw [stage_answered site (by rw [about, holds]), setting.stage cmd handle held holds]

/-- A command that was sent is like the others. -/
theorem staged_of_sent (setting : SettingUp id .sent world) : Staged none world :=
  { setting.toStaged with
    sent := fun other cmd handle held holds _ => by
      by_cases isId : other = id
      · exact setting.stage cmd handle (isId ▸ held) holds
      · exact setting.sent other cmd handle held holds (by simpa using isId) }

theorem paramStable (cfg : Config σ) (id : CommandId) :
    ParamStable cfg id (Preserves (SettingUp id .initiated))
      (StopsHolding (SettingUp id .initiated) Stopped) where
  raise _ _ _ setting := setting.of_eq rfl rfl (Nat.le_refl _)
  discard _ setting := setting.of_eq rfl rfl (Nat.le_refl _)
  halts _ _ _ setting := setting.follows
  param {_ cmd} name datatype format maxlength data held setting := by
    have about : (CtCall.param cmd.mCmd name datatype format maxlength data).command? =
        some cmd.mCmd :=
      rfl
    exact setting.call_command cfg .other held about rfl

theorem wp_bindQuery (setting : SettingUp id .created world) (query : SybaseQuery)
    (args : Option (List QoreValue)) :
    wp (Command.bindQuery cfg id query args) (fun _ after => SettingUp id .initiated after)
      (fun _ after => Staged (some id) after) Stopped world := by
  have changed : SettingUp id .created { world with
      commands := Function.update world.commands id
        ((world.commands id).map fun cmd => { cmd with query := some query }) } := by
    refine ⟨setting.toStaged.change fun _ _ holds => holds, fun cmd handle held holds => ?_⟩
    simp only [Function.update_self, Option.map_eq_some_iff] at held
    obtain ⟨before, held, rfl⟩ := held
    exact setting.stage before handle held holds
  rw [Command.bindQuery, wp_bind, wp_modifyCommand, wp_bind, Command.initiateLanguageCommand,
    wp_bind, wp_assert]
  refine ⟨fun _ => changed.follows, fun _ => ?_⟩
  rw [wp_bind, wp_getCommand]
  refine ⟨fun cmd held => ?_, fun _ => changed.follows⟩
  have called := changed.call_command cfg .other held
    (rfl : (CtCall.command cmd.mCmd query.mCmd).command? = _) rfl
  rw [wp_bind, wp_ctCall, wp_when]
  refine ⟨fun _ => ?_, fun succeeded => ?_⟩
  · rw [wp_doException]
    exact called.toStaged.of_eq rfl rfl (Nat.le_refl _)
  · rw [CommandStage.next, if_pos (not_not.mp succeeded)] at called
    rw [wp_when]
    refine ⟨fun _ => ?_, fun _ => called⟩
    exact wp_mono (keeps_preserves.mp ((paramStable cfg id).keeps_setParamsFrom args _ _) _ called)
      (fun _ _ setting => setting) (fun _ _ setting => setting.toStaged) fun _ _ stopped => stopped

theorem wp_send (setting : SettingUp id .initiated world) :
    wp (Command.send cfg id) (fun _ after => Staged none after)
      (fun _ after => Staged (some id) after)
      Stopped world := by
  rw [Command.send, wp_bind, wp_getCommand]
  refine ⟨fun cmd held => ?_, fun _ => setting.follows⟩
  have called := setting.call_command cfg .other held
    (rfl : (CtCall.send cmd.mCmd).command? = _) rfl
  rw [wp_bind, wp_ctCall, wp_when]
  refine ⟨fun _ => ?_, fun succeeded => ?_⟩
  · rw [wp_doException]
    exact called.toStaged.of_eq rfl rfl (Nat.le_refl _)
  · rw [CommandStage.next, if_pos (not_not.mp succeeded)] at called
    exact called.staged_of_sent

end SettingUp

/-! ### Ending a command -/

namespace Staged

/-- A command that holds no handle need not have been sent. -/
theorem forget (staged : Staged (some id) world)
    (empty : ∀ cmd, world.commands id = some cmd → cmd.mCmd = none) : Staged none world :=
  { staged with
    sent := fun other cmd handle held holds _ => by
      by_cases isId : other = id
      · exact absurd ((empty cmd (isId ▸ held)).symm.trans holds) (by simp)
      · exact staged.sent other cmd handle held holds (by simpa using isId) }

theorem dropped (staged : Staged (some id) world) (held : world.commands id = some cmd) :
    Staged none (world.dropped cfg id cmd) := by
  have called := staged.call_command cfg .other held
    (rfl : (CtCall.cmdDrop cmd.mCmd).command? = _) fun _ _ => trivial
  have changed : Staged (some id) (world.dropped cfg id cmd) :=
    called.change fun _ _ holds => absurd holds (by simp)
  refine changed.forget fun cmd' held' => ?_
  simp only [World.dropped, Function.update_self, Option.map_eq_some_iff] at held'
  obtain ⟨_, _, rfl⟩ := held'
  rfl

theorem removed (staged : Staged (some id) world) : Staged none (world.removed id) := by
  have other : ∀ {index cmd}, (world.removed id).commands index = some cmd →
      index ≠ id ∧ world.commands index = some cmd := by
    intro index cmd held
    by_cases isId : index = id
    · simp [World.removed, isId] at held
    · exact ⟨isId, by simpa [World.removed, isId] using held⟩
  refine ⟨staged.follows, staged.below, fun index cmd handle held holds => ?_,
    fun index cmd handle held holds _ => ?_⟩
  · exact staged.old index cmd handle (other held).2 holds
  · exact staged.sent index cmd handle (other held).2 holds (by simpa using (other held).1)

/-- Disconnecting a command drops its handle, whether it was sent or not. -/
theorem wp_cancelDisconnect (staged : Staged (some id) world) :
    wp (Command.cancelDisconnect cfg id) (fun _ after => Staged none after) noThrow Stopped
      world := by
  cases held : world.commands id with
  | none =>
    rw [Command.cancelDisconnect, wp_bind, wp_getCommand]
    exact ⟨fun _ held' => absurd (held.symm.trans held') (by simp), fun _ => staged.follows⟩
  | some cmd =>
    rw [Sybase.wp_cancelDisconnect held]
    refine ⟨fun _ => staged.follows, fun _ => ?_⟩
    have canceled := staged.call_command cfg .cancelDisconnect held
      (rfl : (CtCall.cancel cmd.mCmd).command? = _) fun _ _ => trivial
    exact canceled.dropped held

/-- Destroying a command, whether it was sent or not. -/
theorem wp_destroy (staged : Staged (some id) world) :
    wp (Command.destroy cfg id) (fun _ after => Staged none after) noThrow Stopped world := by
  cases held : world.commands id with
  | none =>
    rw [Command.destroy, wp_bind, wp_tryCatch, Command.clear, wp_bind, wp_getCommand]
    exact ⟨fun _ held' => absurd (held.symm.trans held') (by simp), fun _ => staged.follows⟩
  | some cmd =>
    have canceled : Staged (some id) (world.canceled cfg cmd) := by
      rw [World.canceled]
      split
      · exact staged.call_command cfg .clear held rfl fun _ _ => trivial
      · exact staged
    have held' : (world.canceled cfg cmd).commands id = some cmd := by
      rw [World.canceled]
      split
      · exact held
      · exact held
    rw [Sybase.wp_destroy held]
    split
    · split
      · exact canceled.follows
      · exact ((canceled.dropped held').weaken id).removed
    · exact staged.removed

/-! ### Requests -/

theorem keeps_noHandle (cfg : Config σ) (site : Site) {call : CtCall}
    (about : call.command?.join = none) :
    Keeps (Preserves (Staged none)) (StopsHolding (Staged none) Stopped) (ctCallAt cfg site call) :=
  fun _ staged => staged.call_noHandle cfg site about

theorem invalidatingStable (cfg : Config σ) :
    InvalidatingStable cfg (Preserves (Staged none)) (StopsHolding (Staged none) Stopped) where
  toBaseStable := baseStable
  disconnects id := keeps_preserves.mpr fun _ staged =>
    wp_mono (staged.weaken id).wp_cancelDisconnect
    (fun _ _ staged => staged) (fun _ _ absent => absent.elim) fun _ _ stopped => stopped
  noted _ _ staged := staged.recorded rfl rfl rfl rfl
  invalid _ _ staged := staged.of_eq rfl rfl (Nat.le_refl _)
  unregister _ staged := staged.of_eq rfl rfl (Nat.le_refl _)

theorem keeps_destroy (cfg : Config σ) (id : CommandId) :
    Keeps (Preserves (Staged none)) (StopsHolding (Staged none) Stopped) (Command.destroy cfg id) :=
  keeps_preserves.mpr fun _ staged => wp_mono (staged.weaken id).wp_destroy
    (fun _ _ staged => staged) (fun _ _ absent => absent.elim) fun _ _ stopped => stopped

/-- A reconnect may begin while its command is set up; after it, every command has been sent. -/
def Resumes (reconnect : Reconnect σ) : Prop := ∀ id tryReconnect world, Staged (some id) world →
  wp (reconnect id tryReconnect) (fun _ after => Staged none after)
    (fun _ after => Staged none after)
    Stopped world

section Reconnecting

variable {reconnect : Reconnect σ} (resumes : Resumes reconnect)
include resumes

theorem keeps_reconnect (id : CommandId) (tryReconnect : Bool) :
    Keeps (Preserves (Staged none)) (StopsHolding (Staged none) Stopped)
      (reconnect id tryReconnect) :=
  keeps_preserves.mpr fun world staged => resumes id tryReconnect world (staged.weaken id)

theorem wp_sendOrReconnect (setting : SettingUp id .initiated world) :
    wp (sendOrReconnect cfg reconnect id) (fun _ after => Staged none after)
      (fun _ after => Staged (some id) after) Stopped world := by
  rw [sendOrReconnect, wp_tryCatch, wp_bind]
  refine wp_mono setting.wp_send (fun _ _ staged => staged) (fun error state staged => ?_)
    fun _ _ stopped => stopped
  have asked : Staged (some id) (state.answered cfg.lib .other .conStatus) :=
    staged.call_noHandle cfg .other rfl
  rw [wp_bind, ping, wp_bind, wp_ctCall, wp_pure]
  split
  · exact asked
  · rw [wp_bind]
    refine wp_mono (resumes id true _ asked) (fun result _ staged => ?_)
      (fun _ _ staged => staged.weaken id) fun _ _ stopped => stopped
    split
    · exact staged.weaken id
    · exact staged

theorem wp_setupCommandOnce (cmdText : Text) (args : Option (List QoreValue)) (raw : Bool)
    (staged : Staged none world) :
    wp (setupCommandOnce cfg reconnect cmdText args raw) (fun _ after => Staged none after)
      (fun _ after => Staged none after) Stopped world := by
  have base : BaseStable (Preserves (Staged (σ := σ) none)) (StopsHolding (Staged none) Stopped) :=
    baseStable
  rw [setupCommandOnce, wp_bind]
  refine wp_mono_ok (keeps_preserves.mp (base.keeps_initQuery cmdText args raw) _ staged)
    fun query state staged => ?_
  cases query with
  | none => exact staged
  | some query =>
    have destroys : ∀ last : World σ, Staged (some state.nextCommand) last →
        wp (Command.destroy cfg state.nextCommand) (fun _ after => Staged none after)
          (fun _ after => Staged none after) Stopped last := fun _ staged =>
      wp_mono staged.wp_destroy (fun _ _ staged => staged) (fun _ _ absent => absent.elim)
        fun _ _ stopped => stopped
    rw [wp_bind, wp_create, wp_bind, wp_onThrow, wp_bind]
    refine wp_mono ((SettingUp.allocated staged cfg).wp_bindQuery query args)
      (fun _ bound setting => ?_) (fun _ last staged => destroys last staged) fun _ _ stopped =>
        stopped
    refine wp_mono (wp_sendOrReconnect resumes setting) (fun sent last staged => ?_)
      (fun _ last staged => destroys last staged) fun _ _ stopped => stopped
    split
    · exact staged
    · rw [wp_bind]
      exact wp_mono_ok (destroys last (staged.weaken _)) fun _ _ staged => staged

theorem keeps_setupCommand (cmdText : Text) (args : Option (List QoreValue)) (raw : Bool) :
    Keeps (Preserves (Staged none)) (StopsHolding (Staged none) Stopped)
      (setupCommand cfg reconnect cmdText args raw) := by
  refine keeps_preserves.mpr fun world staged => ?_
  refine wp_iterate (fun _ state => Staged none state)
    (fun _ _ staged => staged.follows) ?_ _ _ _ staged
  intro _ state staged
  refine wp_mono_ok (wp_setupCommandOnce resumes cmdText args raw staged) ?_
  rintro (_ | cmd) _ staged
  · exact staged
  · exact staged

theorem preparedStable (cfg : Config σ) :
    PreparedStable cfg reconnect (Preserves (Staged none))
      (StopsHolding (Staged none) Stopped) where
  toBaseStable := baseStable
  reading := readingStable cfg
  reconnects := keeps_reconnect resumes
  setups := keeps_setupCommand resumes
  destroys := keeps_destroy cfg
  invalidates := (invalidatingStable cfg).keeps_invalidateStatement

end Reconnecting

/-! ### Reconnecting -/

theorem reopenStable (cfg : Config σ) :
    ReopenStable cfg (Preserves (Staged none)) (StopsHolding (Staged none) Stopped) where
  toBaseStable := baseStable
  call world call isInit staged := by
    refine staged.call_noHandle cfg .other ?_
    cases call <;> first | rfl | cases isInit
  connection _ _ _ _ _ staged := staged.of_eq rfl rfl (Nat.le_refl _)
  closes cmd := baseStable.keeps_closing ((invalidatingStable cfg).disconnects cmd)
    (invalidatingStable cfg).keeps_invalidateStatement
    (fun _ _ about => keeps_noHandle cfg .other (by rw [about]; rfl))
    fun _ _ _ staged => staged.of_eq rfl rfl (Nat.le_refl _)
  lost _ _ staged := staged.recorded rfl rfl rfl rfl
  reconnected _ _ staged := staged.recorded rfl rfl rfl rfl
  aborts _ staged := staged.of_eq rfl rfl (Nat.le_refl _)
  nested keeps := by
    refine keeps_preserves.mpr fun world staged => (wp_nested _).mpr ?_
    refine wp_mono (keeps_preserves.mp keeps { world with depth := world.depth + 1 }
      (staged.of_eq rfl rfl (Nat.le_refl _))) ?_ ?_ fun _ _ stopped => stopped
    · exact fun _ _ staged => staged.of_eq rfl rfl (Nat.le_refl _)
    · exact fun _ _ staged => staged.of_eq rfl rfl (Nat.le_refl _)

theorem keeps_reopenConnection (cfg : Config σ) {reconnect : Reconnect σ}
    (resumes : Resumes reconnect)
    (tryReconnect : Bool) : Keeps (Preserves (Staged none)) (StopsHolding (Staged none) Stopped)
      (reopenConnection cfg reconnect tryReconnect) :=
  (reopenStable cfg).keeps_reopenConnection (fun _ staged => staged.of_eq rfl rfl (Nat.le_refl _))
    (fun query args singleRow =>
      (preparedStable resumes cfg).keeps_execReadOutput query args true true false singleRow)
    tryReconnect

/-- The first thing a reconnect does is to drop the handle of its command. -/
theorem resumes_closeAndReconnect (cfg : Config σ) (bound : Nat) :
    Resumes (closeAndReconnect cfg bound) := by
  have base : BaseStable (Preserves (Staged (σ := σ) none)) (StopsHolding (Staged none) Stopped) :=
    baseStable
  induction bound with
  | zero => exact fun _ _ _ staged => staged.follows
  | succ bound inductionHypothesis =>
    intro id tryReconnect world staged
    have lost : Staged (some id) (world.record .other (.lost tryReconnect)) :=
      staged.recorded rfl rfl rfl rfl
    have closes := base.keeps_disconnected (invalidatingStable cfg).keeps_invalidateStatement
      (fun _ _ about => keeps_noHandle cfg .other (by rw [about]; rfl))
      fun _ _ _ staged => staged.of_eq rfl rfl (Nat.le_refl _)
    have reopens := keeps_bind (keeps_reopenConnection cfg inductionHypothesis tryReconnect)
      fun result => keeps_bind
        (keeps_modify fun state : World σ => (reopenStable cfg).reconnected state result) fun _ =>
          keeps_pure result
    rw [closeAndReconnect, wp_bind, wp_modify, wp_bind, closeConnection, wp_bind]
    refine wp_mono lost.wp_cancelDisconnect (fun _ _ staged => ?_) (fun _ _ absent => absent.elim)
      fun _ _ stopped => stopped
    exact wp_mono_ok (keeps_preserves.mp closes _ staged) fun _ _ staged =>
      keeps_preserves.mp reopens _ staged

theorem resumes_topReconnect (cfg : Config σ) : Resumes (topReconnect cfg) :=
  resumes_closeAndReconnect cfg cfg.fuel

end Staged

/-! ### Commit and rollback -/

/-- `direct_execute` holds a handle of its own, which is at a stage. -/
structure Direct (handle : Handle) (stage : CommandStage) (world : World σ) : Prop
    extends Staged none world where
  own : handle < world.nextHandle
  stage : commandProtocol.stage handle world.log = stage

namespace Direct

variable {stage : CommandStage}

theorem of_eq (direct : Direct handle stage world) (log : after.log = world.log)
    (commands : after.commands = world.commands) (later : after.nextHandle = world.nextHandle) :
    Direct handle stage after where
  toStaged := direct.toStaged.of_eq log commands (Nat.le_of_eq later.symm)
  own := later ▸ direct.own
  stage := log ▸ direct.stage

theorem call (direct : Direct handle stage world) (cfg : Config σ) (site : Site) (call : CtCall)
    (about : call.command? = some (some handle)) (accepted : stage.accepts call) :
    Direct handle (stage.next call (cfg.lib.reply call world.env).1)
      (world.answered cfg.lib site call) where
  toStaged := direct.toStaged.call_handle site about direct.own (direct.stage.symm ▸ accepted)
  own := direct.own
  stage := by rw [stage_answered site about, direct.stage]

/-- The handle that `direct_execute` allocates is new. -/
theorem allocated (staged : Staged none world) (cfg : Config σ) : Direct world.nextHandle .created
    { world.answered cfg.lib .directExecute (.cmdAlloc world.nextHandle)
      with nextHandle := world.nextHandle + 1 } := by
  have called := staged.call_noHandle cfg .directExecute
    (rfl : (CtCall.cmdAlloc world.nextHandle).command?.join = none)
  refine ⟨called.of_eq rfl rfl (Nat.le_succ _), Nat.lt_succ_self _, ?_⟩
  refine Protocol.stage_eq_initial fun event member about => ?_
  exact absurd (called.below event member _ about) (Nat.lt_irrefl _)

theorem keeps_drain (cfg : Config σ) (handle : Handle) :
    Keeps (Preserves (Direct handle .sent)) (StopsHolding (Direct handle .sent) Stopped)
      (drain cfg handle) := by
  refine keeps_iterate (fun _ direct => direct.follows) (fun _ => ?_) _ _
  refine keeps_bind (fun _ direct => direct.call cfg .drain (.results (some handle)) rfl rfl)
    fun reply => ?_
  split
  · exact keeps_pure _
  · exact keeps_pure _

/-- What `direct_execute` does with its handle follows the protocol, and leaves it at any stage. -/
theorem wp_directExecuteSend (direct : Direct handle .created world) (sqlText : Text) :
    wp (directExecuteSend cfg handle sqlText) (fun _ after => ∃ stage, Direct handle stage after)
      (fun _ after => ∃ stage, Direct handle stage after) Stopped world := by
  have called := direct.call cfg .directExecute (.command (some handle) sqlText) rfl rfl
  rw [directExecuteSend, wp_bind, wp_ctCallAt, wp_bind, wp_when, wp_doException]
  refine ⟨fun _ => ⟨_, called.of_eq rfl rfl rfl⟩, fun succeeded => ?_⟩
  rw [CommandStage.next, if_pos (not_not.mp succeeded)] at called
  have sent := called.call cfg .directExecute (.send (some handle)) rfl rfl
  rw [wp_bind, wp_ctCallAt, wp_bind, wp_when, wp_doException]
  refine ⟨fun _ => ⟨_, sent.of_eq rfl rfl rfl⟩, fun succeeded => ?_⟩
  rw [CommandStage.next, if_pos (not_not.mp succeeded)] at sent
  have announced := sent.call cfg .directExecute (.results (some handle)) rfl rfl
  have drains : ∀ last : World σ, Direct handle .sent last →
      wp (drain cfg handle) (fun _ after => ∃ stage, Direct handle stage after)
        (fun _ after => ∃ stage, Direct handle stage after) Stopped last := fun last direct =>
    wp_mono (keeps_preserves.mp (keeps_drain cfg handle) last direct)
      (fun _ _ direct => ⟨_, direct⟩) (fun _ _ direct => ⟨_, direct⟩) fun _ _ stopped => stopped
  rw [wp_bind, wp_ctCallAt, wp_bind, wp_when, wp_doException]
  refine ⟨fun _ => ⟨_, announced.of_eq rfl rfl rfl⟩, fun _ => ?_⟩
  rw [wp_bind, wp_when, wp_doCheckException]
  refine ⟨fun _ => ?_, fun _ => drains _ announced⟩
  split
  · exact drains _ (announced.of_eq rfl rfl rfl)
  · exact ⟨_, announced.of_eq rfl rfl rfl⟩

/-- `direct_execute` sends its own command, and every other one stays as it was. -/
theorem keeps_directExecute (cfg : Config σ) (sqlText : Text) :
    Keeps (Preserves (Staged none)) (StopsHolding (Staged none) Stopped)
      (directExecute cfg sqlText) := by
  refine keeps_preserves.mpr fun world staged => ?_
  have allocated := Direct.allocated staged cfg
  rw [directExecute, wp_bind, wp_assert]
  refine ⟨fun _ => staged.follows, fun _ => ?_⟩
  rw [wp_bind, wp_get, wp_bind, wp_ctCallAt, wp_bind, wp_modify, wp_bind, wp_when, wp_doException]
  refine ⟨fun _ => allocated.toStaged.of_eq rfl rfl (Nat.le_refl _), fun _ => ?_⟩
  have drops : ∀ last : World σ, (∃ stage, Direct world.nextHandle stage last) → Staged none
      (last.answered cfg.lib .directExecute (.cmdDrop (some world.nextHandle))) :=
    fun _ ⟨_, direct⟩ =>
      (direct.call cfg .directExecute (.cmdDrop (some world.nextHandle)) rfl trivial).toStaged
  rw [wp_ensure, wp_bind, wp_onThrow]
  refine wp_mono (allocated.wp_directExecuteSend sqlText) (fun _ last sent => ?_)
    (fun _ last ⟨_, direct⟩ => ?_) fun _ _ stopped => stopped
  · rw [wp_purgeMessages, wp_bind, wp_ctCallAt, wp_pure]
    obtain ⟨_, direct⟩ := sent
    exact drops _ ⟨_, direct.of_eq rfl rfl rfl⟩
  · rw [wp_bind, wp_ctCallAt, wp_pure, wp_bind, wp_ctCallAt, wp_pure]
    exact drops _ ⟨_, direct.call cfg .directExecute (.cancel (some world.nextHandle)) rfl trivial⟩

end Direct

/-! ### Operations -/

namespace Staged

theorem statementStable (cfg : Config σ) :
    StatementStable cfg (Preserves (Staged none)) (StopsHolding (Staged none) Stopped) where
  toBaseStable := baseStable
  reading := readingStable cfg
  wraps _ _ _ _ staged := staged.of_eq rfl rfl (Nat.le_refl _)

theorem partsStable (cfg : Config σ) :
    PartsStable cfg (Preserves (Staged none)) (StopsHolding (Staged none) Stopped) where
  toStatementStable := statementStable cfg
  requests := (preparedStable (resumes_topReconnect cfg) cfg).keeps_execReadOutput
  commits := keeps_bind (keeps_noHandle cfg .other rfl) fun _ => Direct.keeps_directExecute cfg _
  rollbacks := keeps_bind (keeps_noHandle cfg .other rfl) fun _ => Direct.keeps_directExecute cfg _
  nexts := (statementStable cfg).keeps_next
    ((preparedStable (resumes_topReconnect cfg) cfg).keeps_readNextResult
    (keeps_reconnect (resumes_topReconnect cfg)))
  registers statement := baseStable.keeps_moduleWrap
    (fun _ _ staged => staged.of_eq rfl rfl (Nat.le_refl _))
    ((invalidatingStable cfg).keeps_registerStatement statement fun _ staged =>
      staged.of_eq rfl rfl (Nat.le_refl _))
  closes _ := baseStable.keeps_close (invalidatingStable cfg).unregister
    (fun _ staged => staged.of_eq rfl rfl (Nat.le_refl _))
    (preparedStable (resumes_topReconnect cfg) cfg).keeps_destroyOption
  executes := (preparedStable (resumes_topReconnect cfg) cfg).keeps_exec
    fun _ _ _ staged => staged.of_eq rfl rfl (Nat.le_refl _)

theorem openStable (cfg : Config σ) :
    OpenStable cfg (Preserves (Staged none)) (StopsHolding (Staged none) Stopped) where
  toBaseStable := baseStable
  inits := (reopenStable cfg).toSessionStable.keeps_init
    ((reopenStable cfg).toSessionStable.keeps_setEncoding
      (fun _ staged => staged.of_eq rfl rfl (Nat.le_refl _)) fun query args singleRow =>
        (preparedStable (resumes_topReconnect cfg) cfg).keeps_execReadOutput query
          args true true false singleRow)
  destroys := baseStable.keeps_destroyConnection (invalidatingStable cfg).keeps_invalidateStatement
    (fun _ _ about => keeps_noHandle cfg .other (by rw [about]; rfl)) fun _ staged => staged.follows
  connect _ staged := staged.of_eq rfl rfl (Nat.le_refl _)
  disconnect _ staged := staged.of_eq rfl rfl (Nat.le_refl _)
  setOpen _ _ staged := staged.of_eq rfl rfl (Nat.le_refl _)

theorem keeps_op (cfg : Config σ) (op : Op) :
    Keeps (Preserves (Staged none)) (StopsHolding (Staged none) Stopped) (op.run cfg) :=
  (partsStable cfg).keeps_op (openStable cfg) op

/-- In every state that is reached, the calls have followed the protocol, and every command that
holds a handle has been sent. -/
theorem of_reachable {allowed : World σ → Call → Prop} (reached : Reachable cfg allowed world) :
    Staged none world := by
  refine reached.kept (keeps_op cfg) (fun world start => ?_) fun _ _ staged =>
    staged.of_eq rfl rfl (Nat.le_refl _)
  have unused : ∀ id cmd, world.commands id ≠ some cmd := fun id cmd held => by
    simp [start.commands] at held
  refine ⟨?_, fun entry member => ?_, fun id cmd _ held => absurd held (unused id cmd),
    fun id cmd _ held => absurd held (unused id cmd)⟩
  · rw [start.log]
    trivial
  · rw [start.log] at member
    cases member

end Staged

/-- Every call about a command handle is one that ct-lib takes at the stage to which the earlier
calls about the handle have brought it. The log has its newest entry first. -/
def CallsInOrder (log : List Entry) : Prop :=
  ∀ later entry earlier handle call reply, log = later ++ entry :: earlier →
    entry.event = .call call reply → call.command? = some (some handle) →
      (commandProtocol.stage handle earlier).accepts call

/-- In every run, for every ct-lib and however the last call ends, the calls about each command
handle are made in the order that ct-lib takes them. -/
theorem callsInOrder_of_run {allowed : World σ → Call → Prop}
    (reached : Reachable cfg allowed world)
    (call : Call) : CallsInOrder (call.run cfg world).2.log := by
  have staged : Staged none (world.calling call) :=
    (Staged.of_reachable reached).of_eq rfl rfl (Nat.le_refl _)
  have follows : commandProtocol.Follows (call.run cfg world).2.log := by
    have run := keeps_preserves.mp (Staged.keeps_op cfg call.op) _ staged
    obtain ⟨returned, thrown, halted⟩ := wp_iff_forall.mp run
    rcases ended : call.run cfg world with ⟨value | error | reason, last⟩
    · exact (returned value last ended).follows
    · exact (thrown error last ended).follows
    · exact halted reason last ended
  intro later entry earlier handle call' reply same event about
  rw [same] at follows
  have isAbout : commandProtocol.about entry = some handle := by
    show entry.about = some handle
    rw [Entry.about, event]
    exact congrArg Option.join about
  have accepted : commandProtocol.accepts (commandProtocol.stage handle earlier) entry :=
    follows.accepted isAbout
  simpa [commandProtocol, event] using accepted

/-- A statement with a parameter that a server carries out. -/
def updateCall : Call := ⟨[], .datasource (.exec (text "update t set a = %v") (some [.int 1]))⟩

/-- The answers of that server. -/
def updateScript : List Reply := [{}, {}, {}, {}, {}, { number := 1 }, { code := .endResults }, {}]

theorem callsInOrder_of_run_update :
    CallsInOrder (updateCall.run (Config.sample (CtLib.scripted false) true 9)
      (World.opened updateScript)).2.log ∧
    commandProtocol.stage 0 (updateCall.run (Config.sample (CtLib.scripted false) true 9)
      (World.opened updateScript)).2.log = .sent := by
  have reached : Reachable (Config.sample (CtLib.scripted false) true 9) (fun _ _ => True)
      (World.opened updateScript) := .start ⟨rfl, rfl, rfl, rfl⟩
  exact ⟨callsInOrder_of_run reached _, by decide +kernel⟩

end Sybase
