/-
This file proves the rules of the primitives the driver is written with: what holds
after a call of ct-lib, after a change of a command, of the connection or of a
statement, and what such a change leaves as it was.
-/

import SybaseDriver.Diagnostics

namespace Sybase

open Program

variable {σ : Type} {cfg : Config σ} {world : World σ}

/-! ### What a call leaves as it was -/

section Answered

variable (lib : CtLib σ) (site : Site) (call : CtCall)

@[simp] theorem answered_env : (world.answered lib site call).env = (lib.reply call world.env).2 :=
  rfl

@[simp] theorem answered_log : (world.answered lib site call).log =
    ⟨world.depth, site, .call call (lib.reply call world.env).1⟩ :: world.log := rfl

@[simp] theorem answered_depth : (world.answered lib site call).depth = world.depth := rfl

@[simp] theorem answered_xsink : (world.answered lib site call).xsink = world.xsink := rfl

@[simp] theorem answered_commands : (world.answered lib site call).commands = world.commands := rfl

@[simp] theorem answered_connection :
    (world.answered lib site call).connection = world.connection := rfl

@[simp] theorem answered_statements :
    (world.answered lib site call).statements = world.statements := rfl

@[simp] theorem answered_isOpen : (world.answered lib site call).isOpen = world.isOpen := rfl

@[simp] theorem answered_connectionAborted :
    (world.answered lib site call).connectionAborted = world.connectionAborted := rfl

@[simp] theorem answered_nextCommand :
    (world.answered lib site call).nextCommand = world.nextCommand := rfl

@[simp] theorem answered_nextHandle :
    (world.answered lib site call).nextHandle = world.nextHandle := rfl

end Answered

/-! ### Postconditions -/

/-- Nothing is thrown. -/
abbrev noThrow : Error → World σ → Prop := fun _ _ => False

/-- The process does not stop. -/
abbrev noHalt : Halt → World σ → Prop := fun _ _ => False

section Rules

variable {α : Type} {onOk : α → World σ → Prop} {onUnit : Unit → World σ → Prop}
  {onThrow : Error → World σ → Prop} {onHalt : Halt → World σ → Prop}

@[simp] theorem wp_ctCallAt (site : Site) (call : CtCall) {onReply : Reply → World σ → Prop} :
    wp (ctCallAt cfg site call) onReply onThrow onHalt world ↔
      onReply (cfg.lib.reply call world.env).1 (world.answered cfg.lib site call) := Iff.rfl

@[simp] theorem wp_ctCall (call : CtCall) {onReply : Reply → World σ → Prop} :
    wp (ctCall cfg call) onReply onThrow onHalt world ↔
      onReply (cfg.lib.reply call world.env).1 (world.answered cfg.lib .other call) := Iff.rfl

@[simp] theorem wp_raiseException (err desc : String) :
    wp (raiseException err desc) onUnit onThrow onHalt world ↔
      onUnit () { world with xsink := ⟨err, desc⟩ :: world.xsink } := Iff.rfl

@[simp] theorem wp_isException {onBool : Bool → World σ → Prop} :
    wp isException onBool onThrow onHalt world ↔ onBool (!world.xsink.isEmpty) world := Iff.rfl

@[simp] theorem wp_assert (assertion : Assertion) (condition : Bool) :
    wp (assert cfg assertion condition) onUnit onThrow onHalt world ↔
      ((cfg.build.debug && !condition) = true → onHalt (.assertion assertion) world) ∧
        (¬(cfg.build.debug && !condition) = true → onUnit () world) := by
  rw [assert, wp_when, wp_halt]

@[simp] theorem wp_modifyCommand (id : CommandId) (change : Command → Command) :
    wp (modifyCommand id change) onUnit onThrow onHalt world ↔
      onUnit () { world with
        commands := Function.update world.commands id ((world.commands id).map change) } := Iff.rfl

@[simp] theorem wp_modifyConnection (change : Connection → Connection) :
    wp (modifyConnection change) onUnit onThrow onHalt world ↔
      onUnit () { world with connection := change world.connection } := Iff.rfl

@[simp] theorem wp_modifyModuleWrap (id : StatementId) (change : ModuleWrap → ModuleWrap) :
    wp (modifyModuleWrap id change) onUnit onThrow onHalt world ↔
      onUnit () { world with
        statements := Function.update world.statements id ((world.statements id).map change) } :=
  Iff.rfl

/-- Reading a command: there is one, or using it is undefined. -/
theorem wp_getCommand (id : CommandId) {onCommand : Command → World σ → Prop} :
    wp (getCommand id) onCommand onThrow onHalt world ↔
      (∀ cmd, world.commands id = some cmd → onCommand cmd world) ∧
        (world.commands id = none → onHalt .undefined world) := by
  rw [getCommand, wp_bind, wp_get]
  cases world.commands id with
  | none => simp
  | some cmd => simp

/-- Reading a command that is there. -/
theorem wp_getCommand_some {id : CommandId} {cmd : Command} {onCommand : Command → World σ → Prop}
    (held : world.commands id = some cmd) :
    wp (getCommand id) onCommand onThrow onHalt world ↔ onCommand cmd world := by
  rw [wp_getCommand, held]
  simp

/-- Reading the private data of a statement: there are some, or using them is undefined. -/
theorem wp_getModuleWrap (id : StatementId) {onWrap : ModuleWrap → World σ → Prop} :
    wp (getModuleWrap id) onWrap onThrow onHalt world ↔
      (∀ wrap, world.statements id = some wrap → onWrap wrap world) ∧
        (world.statements id = none → onHalt .undefined world) := by
  rw [getModuleWrap, wp_bind, wp_get]
  cases world.statements id with
  | none => simp
  | some wrap => simp

/-- Reading the private data of a statement that has some. -/
theorem wp_getModuleWrap_some {id : StatementId} {wrap : ModuleWrap}
    {onWrap : ModuleWrap → World σ → Prop} (held : world.statements id = some wrap) :
    wp (getModuleWrap id) onWrap onThrow onHalt world ↔ onWrap wrap world := by
  rw [wp_getModuleWrap, held]
  simp

/-- The text of the error that reports the queued messages. -/
def errorText (fmt : String) (world : World σ) : String :=
  (world.serverMsgs.foldl Connection.Report.server
    (world.clientMsgs.foldl Connection.Report.client ⟨fmt ++ ": ", 0⟩)).finish

/-- The state without queued messages. -/
def World.discarded (world : World σ) : World σ := { world with clientMsgs := [], serverMsgs := [] }

/-- `do_exception` throws, whatever messages are queued. -/
@[simp] theorem wp_doException {onResult : Unit → World σ → Prop} (err fmt : String) :
    wp (Connection.doException err fmt) onResult onThrow onHalt world ↔
      onThrow ⟨err, errorText fmt world⟩ world.discarded := by
  rw [Connection.doException, Connection.doCheckException, wp_bind, wp_get]
  rfl

@[simp] theorem wp_discardMessages :
    wp Connection.discardMessages onUnit onThrow onHalt world ↔ onUnit () world.discarded := Iff.rfl

end Rules

/-! ### Postconditions of a return -/

/-- A postcondition of a return alone. -/
abbrev wpOk {α : Type} (program : Driver σ α) (onOk : α → World σ → Prop) (world : World σ) :
    Prop :=
  wp program onOk (fun _ _ => True) (fun _ _ => True) world

theorem wpOk_of_wp {α : Type} {program : Driver σ α} {world : World σ}
    {onOk : α → World σ → Prop} (holds : wp program onOk noThrow noHalt world) :
    wpOk program onOk world :=
  wp_mono holds (fun _ _ post => post) (fun _ _ absent => absent.elim) fun _ _ absent => absent.elim

/-- A program returns if and only if it neither throws nor stops. -/
theorem returns_iff_wp {α : Type} {program : Driver σ α} {world : World σ} :
    (∃ value after, program world = (.ok value, after)) ↔
      wp program (fun _ _ => True) noThrow noHalt world := by
  unfold wp
  rcases program world with ⟨value | error | reason, after⟩ <;> simp

/-- A program that returns, from the postcondition of its run. -/
theorem returns_of_wp {α : Type} {program : Driver σ α} {world : World σ}
    {onOk : α → World σ → Prop} (holds : wp program onOk noThrow noHalt world) :
    ∃ value after, program world = (.ok value, after) ∧ onOk value after := by
  unfold wp at holds
  rcases run : program world with ⟨value | error | reason, after⟩ <;> simp only [run] at holds
  · exact ⟨value, after, rfl, holds⟩
  · exact holds.elim
  · exact holds.elim

end Sybase
