/-
This file proves the rules of the functions that make, disconnect and destroy
commands: the state they lead to, for any ct-lib, where the command they are called
on is there.
-/

import SybaseDriver.Connection
import SybaseDriver.WorldLogic

namespace Sybase

open Program Connection Command

variable {σ : Type} {cfg : Config σ} {world : World σ} {id : CommandId} {cmd : Command}
  {onUnit : Unit → World σ → Prop} {onThrow : Error → World σ → Prop}
  {onHalt : Halt → World σ → Prop}

/-! ### Making a command -/

/-- The handle of a new command. -/
def World.newHandle (cfg : Config σ) (world : World σ) : Option Handle :=
  if (cfg.lib.reply (.cmdAlloc world.nextHandle) world.env).1.code = .succeed then
    some world.nextHandle else none

/-- The state after a command is made. -/
def World.allocated (cfg : Config σ) (world : World σ) : World σ :=
  let reply := (cfg.lib.reply (.cmdAlloc world.nextHandle) world.env).1
  { world.answered cfg.lib .other (.cmdAlloc world.nextHandle) with
    commands := Function.update world.commands world.nextCommand
      (some ⟨none, world.newHandle cfg, -1, .resNone, ⟨true, []⟩, []⟩)
    nextCommand := world.nextCommand + 1
    nextHandle := world.nextHandle + 1
    xsink :=
      if reply.code = .succeed then world.xsink
      else ⟨"TDS-EXEC-EXCEPTION", s!"Sybase call ct_cmd_alloc() failed with error {reply.code}"⟩ ::
        world.xsink }

/-- An exception that is pending stays pending. -/
theorem allocated_xsink (raised : world.xsink ≠ []) : (world.allocated cfg).xsink ≠ [] := by
  simp only [World.allocated]
  split
  · exact raised
  · exact List.cons_ne_nil _ _

theorem wp_create {onId : CommandId → World σ → Prop} :
    wp (create cfg) onId onThrow onHalt world ↔ onId world.nextCommand (world.allocated cfg) := by
  rw [create, wp_bind, wp_get, wp_bind, wp_ctCall, wp_bind, wp_modify, wp_bind, wp_when,
    wp_raiseException, World.allocated, World.newHandle]
  by_cases succeeded :
      (cfg.lib.reply (.cmdAlloc world.nextHandle) world.env).1.code = .succeed
  · simp [succeeded]
  · simp [succeeded]

/-! ### Canceling and dropping -/

/-- The state after the handle of a command is dropped. -/
def World.dropped (cfg : Config σ) (world : World σ) (id : CommandId) (cmd : Command) : World σ :=
  { world.answered cfg.lib .other (.cmdDrop cmd.mCmd) with
    commands := Function.update world.commands id
      ((world.commands id).map fun cmd => { cmd with mCmd := none }) }

@[simp] theorem wp_dropHandle : wp (dropHandle cfg id cmd) onUnit onThrow onHalt world ↔
    onUnit () (world.dropped cfg id cmd) := by
  rw [dropHandle, wp_bind, wp_ctCall, wp_modifyCommand]
  rfl

theorem wp_cancelIntern (held : world.commands id = some cmd) (site : Site)
    {onResult : Int → World σ → Prop} :
    wp (cancelIntern cfg site id) onResult onThrow onHalt world ↔
      ((cfg.build.debug && !cmd.mCmd.isSome) = true → onHalt (.assertion .handle) world) ∧
      (¬(cfg.build.debug && !cmd.mCmd.isSome) = true →
        onResult (if (cfg.lib.reply (.cancel cmd.mCmd) world.env).1.code = .fail then -1 else 0)
          (world.answered cfg.lib site (.cancel cmd.mCmd))) := by
  rw [cancelIntern, wp_bind, wp_getCommand_some held, wp_bind, wp_assert]
  rfl

/-- The state after a command is disconnected. -/
def World.disconnected (cfg : Config σ) (world : World σ) (id : CommandId) (cmd : Command) :
    World σ :=
  (world.answered cfg.lib .cancelDisconnect (.cancel cmd.mCmd)).dropped cfg id cmd

theorem wp_cancelDisconnect (held : world.commands id = some cmd) :
    wp (cancelDisconnect cfg id) onUnit onThrow onHalt world ↔
      ((cfg.build.debug && !cmd.mCmd.isSome) = true → onHalt (.assertion .handle) world) ∧
      (¬(cfg.build.debug && !cmd.mCmd.isSome) = true →
        onUnit () (world.disconnected cfg id cmd)) := by
  rw [cancelDisconnect, wp_bind, wp_getCommand_some held, wp_bind, wp_assert]
  refine and_congr_right fun _ => imp_congr_right fun passed => ?_
  rw [wp_bind, wp_cancelIntern held, wp_dropHandle]
  exact ⟨fun post => post.2 passed, fun post => ⟨fun failed => absurd failed passed, fun _ => post⟩⟩

/-! ### Destroying a command -/

/-- `command::clear` cancels a command: it is neither finished nor canceled already. -/
def Command.Unfinished (cmd : Command) (world : World σ) : Prop :=
  cmd.lastRes ≠ .resCanceled ∧ cmd.lastRes ≠ .resEnd ∧ world.connectionAborted = false

instance (cmd : Command) (world : World σ) : Decidable (cmd.Unfinished world) :=
  inferInstanceAs (Decidable (_ ∧ _))

/-- The state after the cancel of `command::clear`, if there is one. -/
def World.canceled (cfg : Config σ) (world : World σ) (cmd : Command) : World σ :=
  if cmd.Unfinished world then world.answered cfg.lib .clear (.cancel cmd.mCmd) else world

/-- The cancel of `command::clear` fails. -/
def Command.FailsToCancel (cfg : Config σ) (cmd : Command) (world : World σ) : Prop :=
  cmd.Unfinished world ∧ (cfg.lib.reply (.cancel cmd.mCmd) world.env).1.code ≠ .succeed

instance (cmd : Command) (world : World σ) : Decidable (cmd.FailsToCancel cfg world) :=
  inferInstanceAs (Decidable (_ ∧ _))

theorem wp_cancelUnfinished :
    wp (cancelUnfinished cfg cmd) onUnit onThrow onHalt world ↔
      if cmd.FailsToCancel cfg world then
        onThrow ⟨"TDS-EXEC-EXCEPTION", "ct_cancel failed"⟩ (world.canceled cfg cmd)
      else onUnit () (world.canceled cfg cmd) := by
  have fails : cmd.FailsToCancel cfg world ↔ cmd.Unfinished world ∧
      (cfg.lib.reply (.cancel cmd.mCmd) world.env).1.code ≠ .succeed := Iff.rfl
  have branch : cmd.lastRes ≠ .resCanceled ∧ cmd.lastRes ≠ .resEnd ∧
      world.connectionAborted = false ↔ cmd.Unfinished world := Iff.rfl
  rw [cancelUnfinished, wp_bind, wp_get, wp_when, World.canceled, branch]
  by_cases unfinished : cmd.Unfinished world
  · rw [wp_bind, wp_ctCallAt, wp_when, wp_throw]
    by_cases failed : (cfg.lib.reply (.cancel cmd.mCmd) world.env).1.code ≠ .succeed
    · simp [fails, unfinished, failed]
    · simp [fails, unfinished, failed]
  · simp [fails, unfinished]

theorem wp_clear (held : world.commands id = some cmd) :
    wp (clear cfg id) onUnit onThrow onHalt world ↔
      if cmd.mCmd.isSome then
        if cmd.FailsToCancel cfg world then
          onThrow ⟨"TDS-EXEC-EXCEPTION", "ct_cancel failed"⟩ (world.canceled cfg cmd)
        else onUnit () ((world.canceled cfg cmd).dropped cfg id cmd)
      else onUnit () world := by
  rw [clear, wp_bind, wp_getCommand_some held, wp_when]
  by_cases handle : cmd.mCmd.isSome = true
  · rw [wp_bind, wp_cancelUnfinished, wp_dropHandle]
    simp [handle]
  · simp [handle]

/-- The state without a command. -/
def World.removed (world : World σ) (id : CommandId) : World σ :=
  { world with commands := Function.update world.commands id none }

/-- Destroying a command that is there: its handle, if it holds one, is dropped, unless the cancel
that comes before fails, which stops the process. -/
theorem wp_destroy (held : world.commands id = some cmd) :
    wp (Command.destroy cfg id) onUnit onThrow onHalt world ↔
      if cmd.mCmd.isSome then
        if cmd.FailsToCancel cfg world then onHalt .terminate (world.canceled cfg cmd)
        else onUnit () (((world.canceled cfg cmd).dropped cfg id cmd).removed id)
      else onUnit () (world.removed id) := by
  rw [Command.destroy, wp_bind, wp_tryCatch, wp_clear held]
  rfl

end Sybase
