/-
This file proves what reading the results of a command can change. A relation
between states that every step of reading keeps (a call about the command, a value
read, a message or an exception, a change of the command's own fields) is kept by
each of the functions that read. Two such relations are used later: that nothing
but the command itself and the log changes, and that a ct-lib with finitely many
answers left does not get more of them.
-/

import SybaseDriver.Connection
import SybaseDriver.WorldLogic

namespace Sybase

open Program Connection

variable {σ : Type}

/-- The calls that read the results of a command. -/
def CtCall.isReading : CtCall → Bool
  | results _ | rowCount _ | numData _ | describe _ _ | bind _ _ _ | fetch _ | cancel _ => true
  | _ => false

/-- What every relation considered holds of: exceptions are raised, and queued messages are
discarded. -/
structure RaiseStable (relation : World σ → World σ → Prop) : Prop where
  raise : ∀ (world : World σ) (err desc : String),
    relation world { world with xsink := ⟨err, desc⟩ :: world.xsink }
  discard : ∀ world : World σ, relation world world.discarded

/-- The process may stop besides, except by an error that leaves a destructor. -/
structure BaseStable (relation : World σ → World σ → Prop)
    (stops : Halt → World σ → World σ → Prop) : Prop extends RaiseStable relation where
  halts : ∀ (world : World σ) (reason : Halt), reason ≠ .terminate → stops reason world world

/-- The calls that describe and bind the columns of a result. -/
def CtCall.isDescribing : CtCall → Bool
  | numData _ | describe _ _ | bind _ _ _ => true
  | _ => false

/-- What a relation has to hold of for describing the columns of a command to keep it, and for
making values of what was fetched. -/
structure DescribeStable (cfg : Config σ) (id : CommandId) (relation : World σ → World σ → Prop)
    (stops : Halt → World σ → World σ → Prop) : Prop extends BaseStable relation stops where
  describe : ∀ {world : World σ} {cmd : Command} (call : CtCall),
    world.commands id = some cmd → call.isDescribing = true → call.command? = some cmd.mCmd →
      relation world (world.answered cfg.lib .other call)
  value : ∀ (world : World σ) (datafmt : Datafmt) (cell : Cell),
    relation world (world.record .other (.value datafmt cell))
  adjust : ∀ (world : World σ) (change : Command → Command),
    (∀ cmd, (change cmd).mCmd = cmd.mCmd ∧ (change cmd).query = cmd.query ∧
      (change cmd).lastRes = cmd.lastRes) →
      relation world { world with
        commands := Function.update world.commands id ((world.commands id).map change) }

/-- What a relation has to hold of for reading a command to keep it. -/
structure ReadingStable (cfg : Config σ) (id : CommandId) (relation : World σ → World σ → Prop)
    (stops : Halt → World σ → World σ → Prop) : Prop extends BaseStable relation stops where
  call : ∀ {world : World σ} {cmd : Command} (site : Site) (call : CtCall), site ≠ .clear →
    world.commands id = some cmd → call.isReading = true → call.command? = some cmd.mCmd →
      relation world (world.answered cfg.lib site call)
  value : ∀ (world : World σ) (datafmt : Datafmt) (cell : Cell),
    relation world (world.record .other (.value datafmt cell))
  modify : ∀ (world : World σ) (change : Command → Command),
    (∀ cmd, (change cmd).mCmd = cmd.mCmd ∧ (change cmd).query = cmd.query) →
      relation world { world with
        commands := Function.update world.commands id ((world.commands id).map change) }

theorem ReadingStable.describing {cfg : Config σ} {id : CommandId}
    {relation : World σ → World σ → Prop} {stops : Halt → World σ → World σ → Prop}
    (stable : ReadingStable cfg id relation stops) : DescribeStable cfg id relation stops where
  toBaseStable := stable.toBaseStable
  describe call held describing about := by
    refine stable.call _ call (by simp) held ?_ about
    cases call <;> first | rfl | cases describing
  value := stable.value
  adjust world change kept := stable.modify world change fun cmd => ⟨(kept cmd).1, (kept cmd).2.1⟩

section Closure

variable {cfg : Config σ} {id : CommandId} {relation : World σ → World σ → Prop}
  {stops : Halt → World σ → World σ → Prop} [Std.Refl relation] [IsTrans (World σ) relation]

/-! ### Primitives -/

omit [IsTrans (World σ) relation] in
theorem keeps_isException : Keeps relation stops (isException : Driver σ Bool) :=
  fun world => refl_of relation world

namespace RaiseStable

variable (stable : RaiseStable relation)
include stable

omit [Std.Refl relation] [IsTrans (World σ) relation] in
theorem keeps_raiseException (err desc : String) :
    Keeps relation stops (raiseException err desc : Driver σ Unit) :=
  keeps_modify fun world => stable.raise world err desc

omit [Std.Refl relation] [IsTrans (World σ) relation] in
theorem keeps_doException (err fmt : String) :
    Keeps relation stops (doException err fmt : Driver σ Unit) :=
  fun world => (wp_doException err fmt).mpr (stable.discard world)

theorem keeps_raiseSevere {msg : Type} (severity : msg → Int) (err : String)
    (describe : msg → String) (messages : List msg) :
    Keeps relation stops (raiseSevere severity err describe messages : Driver σ Bool) := by
  induction messages with
  | nil => exact keeps_pure false
  | cons message messages inductionHypothesis =>
    rw [raiseSevere]
    split
    · exact keeps_bind (stable.keeps_raiseException _ _) fun _ =>
        keeps_bind inductionHypothesis fun _ => keeps_pure true
    · exact inductionHypothesis

theorem keeps_purgeMessages : Keeps relation stops (purgeMessages : Driver σ Int) :=
  keeps_bind keeps_get fun _ => keeps_bind (stable.keeps_raiseSevere _ _ _ _) fun _ =>
    keeps_bind (stable.keeps_raiseSevere _ _ _ _) fun _ =>
      keeps_bind (keeps_modify stable.discard) fun _ => keeps_pure _

end RaiseStable

namespace BaseStable

variable (stable : BaseStable relation stops)
include stable

omit [IsTrans (World σ) relation] in
theorem keeps_undefined {α : Type} : Keeps relation stops (halt .undefined : Driver σ α) :=
  keeps_halt fun world => stable.halts world _ (by simp)

omit [IsTrans (World σ) relation] in
theorem keeps_assert (assertion : Assertion) (condition : Bool) :
    Keeps relation stops (assert cfg assertion condition) :=
  keeps_when _ fun _ => keeps_halt fun world => stable.halts world _ (by simp)

omit [IsTrans (World σ) relation] in
/-- A program that begins with reading a command. -/
theorem keeps_getCommand {α : Type} {next : Command → Driver σ α}
    (rest : ∀ world cmd, world.commands id = some cmd →
      wp (next cmd) (fun _ after => relation world after) (fun _ after => relation world after)
        (Halted relation stops world) world) :
    Keeps relation stops (getCommand id >>= next) := by
  intro world
  rw [wp_bind, wp_getCommand]
  exact ⟨rest world, fun _ => ⟨world, refl_of relation world, stable.halts world _ (by simp)⟩⟩

omit [IsTrans (World σ) relation] in
/-- A program that begins with reading a command and goes on with anything. -/
theorem keeps_getCommand_then {α : Type} {next : Command → Driver σ α}
    (rest : ∀ cmd, Keeps relation stops (next cmd)) :
    Keeps relation stops (getCommand id >>= next) :=
  stable.keeps_getCommand fun world cmd _ => rest cmd world

end BaseStable

namespace DescribeStable

variable {α : Type} (stable : DescribeStable cfg id relation stops)
include stable

/-- A program that begins with a call that describes a command. -/
theorem keeps_callCommand (call : Command → CtCall)
    (isDescribing : ∀ cmd, (call cmd).isDescribing = true)
    (about : ∀ cmd, (call cmd).command? = some cmd.mCmd) {next : Command → Reply → Driver σ α}
    (rest : ∀ cmd reply, Keeps relation stops (next cmd reply)) :
    Keeps relation stops (getCommand id >>= fun cmd => ctCall cfg (call cmd) >>= next cmd) :=
  stable.keeps_getCommand fun world cmd held => by
    rw [wp_bind, wp_ctCallAt]
    exact keeps_after (stable.describe (call cmd) held (isDescribing cmd) (about cmd)) (rest cmd _)

omit [Std.Refl relation] [IsTrans (World σ) relation] in
theorem keeps_modifyCommand {change : Command → Command}
    (kept : ∀ cmd, (change cmd).mCmd = cmd.mCmd ∧ (change cmd).query = cmd.query ∧
      (change cmd).lastRes = cmd.lastRes) :
    Keeps relation stops (modifyCommand id change : Driver σ Unit) :=
  keeps_modify fun world => stable.adjust world change kept

/-! ### Values -/

theorem keeps_getValue (datafmt : Datafmt) (cell : Cell) :
    Keeps relation stops (getValue cfg datafmt cell) := by
  refine keeps_bind (keeps_modify fun world => stable.value world datafmt cell) fun _ => ?_
  split
  · exact keeps_pure _
  · exact keeps_bind (stable.keeps_raiseException _ _) fun _ => keeps_pure _
  · exact keeps_halt fun world => stable.halts world _ (by simp)

omit [IsTrans (World σ) relation] in
theorem keeps_assign (h : Hash) (name : Text) (value : QoreValue) :
    Keeps relation stops (Command.assign h name value : Driver σ Hash) := by
  rw [Command.assign]
  split
  · exact keeps_pure _
  · exact keeps_halt fun world => stable.halts world _ (by simp)

theorem keeps_outputBuffersToHashFrom (ph : Option (List Text)) (columns : List Datafmt)
    (buffers : List OutputValueBuffer) (index : Nat) (result : Hash) :
    Keeps relation stops
      (Command.outputBuffersToHashFrom cfg ph columns buffers index result) := by
  induction columns generalizing buffers index result with
  | nil => exact keeps_pure _
  | cons datafmt columns inductionHypothesis =>
    cases buffers with
    | nil => exact keeps_halt fun world => stable.halts world _ (by simp)
    | cons buffer buffers =>
      refine keeps_bind (stable.keeps_getValue _ _) fun value => ?_
      refine keeps_bind keeps_isException fun raised => ?_
      split
      · exact keeps_pure _
      · exact keeps_bind (stable.keeps_assign _ _ _) fun _ => inductionHypothesis _ _ _

theorem keeps_outputBuffersToHash (ph : Option (List Text)) :
    Keeps relation stops (Command.outputBuffersToHash cfg id ph) :=
  stable.keeps_getCommand_then fun _ => stable.keeps_outputBuffersToHashFrom _ _ _ _ _

theorem keeps_setupColumnsFrom (ph : Option (List Text)) (columns : List Datafmt) (index : Nat)
    (h : Hash) : Keeps relation stops (Command.setupColumnsFrom ph columns index h :
      Driver σ Hash) := by
  induction columns generalizing index h with
  | nil => exact keeps_pure _
  | cons datafmt columns inductionHypothesis =>
    exact keeps_bind (stable.keeps_assign _ _ _) fun _ => inductionHypothesis _ _

theorem keeps_setupColumnsIf (condition : Bool) (ph : Option (List Text)) (h : Hash) :
    Keeps relation stops (Command.setupColumnsIf condition id ph h : Driver σ Hash) := by
  rw [Command.setupColumnsIf]
  split
  · exact stable.keeps_getCommand_then fun _ => stable.keeps_setupColumnsFrom _ _ _ _
  · exact keeps_pure _

theorem keeps_appendFrom (columns : List Datafmt) (buffers : List OutputValueBuffer) (h : Hash) :
    Keeps relation stops (Command.appendFrom cfg columns buffers h) := by
  induction columns generalizing buffers h with
  | nil => exact keeps_pure _
  | cons datafmt columns inductionHypothesis =>
    rw [Command.appendFrom.eq_def]
    split
    · exact keeps_pure _
    · rename_i same
      cases same
      refine keeps_bind (stable.keeps_getValue _ _) fun value => ?_
      refine keeps_bind keeps_isException fun raised => ?_
      split
      · exact keeps_pure _
      · exact keeps_bind (inductionHypothesis _ _) fun _ => keeps_pure _
    · exact keeps_halt fun world => stable.halts world _ (by simp)

theorem keeps_appendBuffersToList (h : Hash) :
    Keeps relation stops (Command.appendBuffersToList cfg id h) :=
  stable.keeps_getCommand_then fun _ => stable.keeps_appendFrom _ _ _

/-! ### Columns and rows -/

theorem keeps_getColumnCount : Keeps relation stops (Command.getColumnCount cfg id) :=
  stable.keeps_callCommand (fun cmd => .numData cmd.mCmd) (fun _ => rfl) (fun _ => rfl)
    fun _ _ => keeps_bind (keeps_when _ fun _ => stable.keeps_doException _ _) fun _ =>
      keeps_bind (keeps_when _ fun _ => stable.keeps_doException _ _) fun _ => keeps_pure _

theorem keeps_getRowDescription (remaining index : Nat) :
    Keeps relation stops (Command.getRowDescription cfg id remaining index) := by
  induction remaining generalizing index with
  | zero => exact keeps_pure _
  | succ remaining inductionHypothesis =>
    refine stable.keeps_callCommand (fun cmd => .describe cmd.mCmd (index + 1)) (fun _ => rfl)
      (fun _ => rfl) fun _ _ => ?_
    split
    · exact keeps_bind (stable.keeps_doException _ _) fun _ => keeps_pure _
    · exact keeps_bind keeps_get fun _ =>
        keeps_bind (stable.keeps_modifyCommand fun _ => ⟨rfl, rfl, rfl⟩) fun _ =>
          inductionHypothesis _

theorem keeps_bindColumns (columns : List Datafmt) (index : Nat) :
    Keeps relation stops (Command.bindColumns cfg id columns index) := by
  induction columns generalizing index with
  | nil => exact keeps_pure _
  | cons datafmt columns inductionHypothesis =>
    refine keeps_bind (stable.keeps_modifyCommand fun _ => ⟨rfl, rfl, rfl⟩) fun _ => ?_
    refine stable.keeps_callCommand (fun cmd => .bind cmd.mCmd (index + 1) datafmt.maxlength)
      (fun _ => rfl) (fun _ => rfl) fun _ _ => ?_
    split
    · exact keeps_bind (stable.keeps_doException _ _) fun _ => keeps_pure _
    · exact inductionHypothesis _

theorem keeps_retrColinfo : Keeps relation stops (Command.retrColinfo cfg id) := by
  refine keeps_bind stable.keeps_getColumnCount fun columns => ?_
  refine keeps_bind keeps_isException fun raised => ?_
  split
  · exact keeps_pure _
  · refine keeps_bind (stable.keeps_modifyCommand fun _ => ⟨rfl, rfl, rfl⟩) fun _ => ?_
    refine keeps_bind (stable.keeps_getRowDescription _ _) fun _ => ?_
    refine stable.keeps_getCommand_then fun cmd => ?_
    refine keeps_bind (keeps_bind (stable.keeps_modifyCommand fun _ => ⟨rfl, rfl, rfl⟩) fun _ =>
      stable.keeps_bindColumns _ _) fun _ => ?_
    exact keeps_bind (stable.keeps_modifyCommand fun _ => ⟨rfl, rfl, rfl⟩) fun _ => keeps_pure _

theorem keeps_ensureColinfo : Keeps relation stops (Command.ensureColinfo cfg id) := by
  refine stable.keeps_getCommand_then fun cmd => ?_
  split
  · exact stable.keeps_retrColinfo
  · exact keeps_pure _

end DescribeStable

namespace ReadingStable

variable {α : Type} (stable : ReadingStable cfg id relation stops)
include stable

/-- A program that begins with a call about a command. -/
theorem keeps_callCommand (call : Command → CtCall) (isReading : ∀ cmd, (call cmd).isReading = true)
    (about : ∀ cmd, (call cmd).command? = some cmd.mCmd) {next : Command → Reply → Driver σ α}
    (rest : ∀ cmd reply, Keeps relation stops (next cmd reply)) :
    Keeps relation stops (getCommand id >>= fun cmd => ctCall cfg (call cmd) >>= next cmd) :=
  stable.keeps_getCommand fun world cmd held => by
    rw [wp_bind, wp_ctCallAt]
    exact keeps_after (stable.call .other (call cmd) (by simp) held (isReading cmd) (about cmd))
      (rest cmd _)

omit [Std.Refl relation] [IsTrans (World σ) relation] in
theorem keeps_modifyCommand {change : Command → Command}
    (kept : ∀ cmd, (change cmd).mCmd = cmd.mCmd ∧ (change cmd).query = cmd.query) :
    Keeps relation stops (modifyCommand id change : Driver σ Unit) :=
  keeps_modify fun world => stable.modify world change kept

/-! ### Rows -/

theorem keeps_fetchRowIntoBuffers :
    Keeps relation stops (Command.fetchRowIntoBuffers cfg id) := by
  refine stable.keeps_callCommand (fun cmd => .fetch cmd.mCmd) (fun _ => rfl) (fun _ => rfl)
    fun cmd reply => ?_
  split
  · exact keeps_bind (stable.keeps_modifyCommand fun _ => ⟨rfl, rfl⟩) fun _ =>
      keeps_bind (keeps_when _ fun _ => stable.keeps_doException _ _) fun _ => keeps_pure _
  · exact keeps_bind (stable.keeps_modifyCommand fun _ => ⟨rfl, rfl⟩) fun _ => keeps_pure _
  · exact keeps_bind (stable.keeps_doException _ _) fun _ => keeps_pure _
  · exact keeps_bind (stable.keeps_doException _ _) fun _ => keeps_pure _

theorem keeps_fetchRow (ph : Option (List Text)) :
    Keeps relation stops (Command.fetchRow cfg id ph) := by
  refine keeps_bind stable.describing.keeps_ensureColinfo fun failed => ?_
  split
  · exact keeps_pure _
  · refine keeps_bind stable.keeps_fetchRowIntoBuffers fun more => ?_
    split
    · exact stable.describing.keeps_outputBuffersToHash ph
    · exact keeps_pure _

theorem keeps_readRowsOnce (ph : Option (List Text)) (singleRow : Bool) (rows : List Hash) :
    Keeps relation stops (Command.readRowsOnce cfg id ph singleRow rows) := by
  refine keeps_bind stable.keeps_fetchRowIntoBuffers fun more => ?_
  split
  · refine keeps_bind (stable.describing.keeps_outputBuffersToHash ph) fun row => ?_
    refine keeps_bind keeps_isException fun raised => ?_
    split
    · exact keeps_pure _
    · split
      · exact keeps_bind (stable.keeps_raiseException _ _) fun _ => keeps_pure _
      · exact keeps_pure _
  · exact keeps_pure _

theorem keeps_readRows (ph : Option (List Text)) (singleRow : Bool) :
    Keeps relation stops (Command.readRows cfg id ph singleRow) := by
  refine keeps_bind stable.describing.keeps_ensureColinfo fun failed => ?_
  split
  · exact keeps_pure _
  · exact keeps_iterate (fun world => stable.halts world _ (by simp))
      (fun rows => stable.keeps_readRowsOnce ph singleRow rows) _ _

theorem keeps_readColsOnce (ph : Option (List Text)) (loop : Int × Hash) :
    Keeps relation stops (Command.readColsOnce cfg id ph loop) := by
  refine keeps_bind stable.keeps_fetchRowIntoBuffers fun more => ?_
  split
  · refine keeps_bind (stable.describing.keeps_setupColumnsIf _ ph _) fun h => ?_
    refine keeps_bind (stable.describing.keeps_appendBuffersToList h) fun appended => ?_
    split
    · exact keeps_pure _
    · split
      · exact keeps_pure _
      · exact keeps_pure _
  · exact keeps_pure _

theorem keeps_readCols (ph : Option (List Text)) (cnt : Int) (cols : Bool) :
    Keeps relation stops (Command.readCols cfg id ph cnt cols) := by
  refine keeps_bind stable.describing.keeps_ensureColinfo fun failed => ?_
  split
  · exact keeps_pure _
  · refine keeps_bind keeps_isException fun raised => ?_
    split
    · exact keeps_pure _
    · refine keeps_bind (stable.describing.keeps_setupColumnsIf _ ph _) fun h => ?_
      exact keeps_iterate (fun world => stable.halts world _ (by simp))
        (fun loop => stable.keeps_readColsOnce ph loop) _ _

theorem keeps_readRowsOrCols (ph : Option (List Text)) (list cols singleRow : Bool) :
    Keeps relation stops (Command.readRowsOrCols cfg id ph list cols singleRow) := by
  refine keeps_bind stable.describing.keeps_ensureColinfo fun failed => ?_
  split
  · exact keeps_pure _
  · split
    · exact stable.keeps_readRows ph singleRow
    · exact keeps_bind (stable.keeps_readCols ph _ cols) fun _ => keeps_pure _

/-! ### Announcing results -/

theorem keeps_readRowCount : Keeps relation stops (Command.readRowCount cfg id) := by
  refine keeps_bind (stable.keeps_modifyCommand fun _ => ⟨rfl, rfl⟩) fun _ => ?_
  refine stable.keeps_callCommand (fun cmd => .rowCount cmd.mCmd) (fun _ => rfl) (fun _ => rfl)
    fun _ _ => ?_
  split
  · exact keeps_bind (stable.keeps_doException _ _) fun _ =>
      keeps_bind stable.keeps_purgeMessages fun _ => keeps_pure _
  · exact keeps_bind (stable.keeps_modifyCommand fun _ => ⟨rfl, rfl⟩) fun _ => keeps_pure _

theorem keeps_announced (type : ResultType) :
    Keeps relation stops (Command.announced cfg id type) := by
  cases type with
  | cmdDone => exact stable.keeps_readRowCount
  | cmdFail => exact keeps_bind (stable.keeps_doException _ _) fun _ => keeps_pure _
  | other type => exact keeps_bind (stable.keeps_doException _ _) fun _ => keeps_pure _
  | _ => exact keeps_pure _

theorem keeps_cancelIntern {site : Site} (notClear : site ≠ .clear) :
    Keeps relation stops (Command.cancelIntern cfg site id) := by
  refine stable.keeps_getCommand fun world cmd held => ?_
  rw [wp_bind, wp_assert]
  refine ⟨fun _ => ⟨world, refl_of relation world, stable.halts world _ (by simp)⟩, fun _ => ?_⟩
  rw [wp_bind, wp_ctCallAt]
  exact keeps_after (stable.call site (.cancel cmd.mCmd) notClear held rfl rfl) (keeps_pure _)

theorem keeps_cancel : Keeps relation stops (Command.cancel cfg id) := by
  refine stable.keeps_getCommand_then fun cmd => ?_
  split
  · exact keeps_pure _
  · exact keeps_bind (stable.keeps_modifyCommand fun _ => ⟨rfl, rfl⟩) fun _ =>
      stable.keeps_cancelIntern (by simp)

theorem keeps_readNextResult1 (disconnect : Bool) :
    Keeps relation stops (Command.readNextResult1 cfg id disconnect) := by
  refine keeps_bind keeps_isException fun raised => ?_
  split
  · exact keeps_pure _
  · refine stable.keeps_getCommand fun world cmd held => ?_
    split
    · exact refl_of relation world
    · rw [wp_bind, wp_ctCallAt]
      refine keeps_after (stable.call _ (.results cmd.mCmd) (by simp) held rfl rfl) ?_
      split
      · exact keeps_pure _
      · exact keeps_bind (stable.keeps_cancelIntern (by simp)) fun _ =>
          keeps_bind (stable.keeps_raiseException _ _) fun _ => keeps_pure _
      · exact keeps_bind (stable.keeps_announced _) fun _ => keeps_pure _
      · exact keeps_bind (stable.keeps_doException _ _) fun _ => keeps_pure _

theorem keeps_readNextResult : Keeps relation stops (Command.readNextResult cfg id) := by
  refine keeps_iterate (fun world => stable.halts world _ (by simp)) (fun disconnect => ?_) _ _
  refine keeps_bind (stable.keeps_readNextResult1 disconnect) fun result => ?_
  refine keeps_bind (stable.keeps_modifyCommand fun _ => ⟨rfl, rfl⟩) fun _ => ?_
  split
  · exact keeps_pure _
  · exact keeps_pure _

theorem keeps_readOutputResult (list cols singleRow : Bool) (rf : ResultFactory) (rt : ResType) :
    Keeps relation stops (readOutputResult cfg id list cols singleRow rf rt) := by
  rw [readOutputResult.eq_def]
  split
  · exact keeps_pure _
  · refine keeps_bind stable.describing.keeps_retrColinfo fun failed => ?_
    split
    · exact keeps_pure _
    · refine stable.keeps_getCommand_then fun cmd => ?_
      split
      · exact keeps_throw _
      · refine keeps_bind (stable.keeps_readRows _ _) fun qresult => ?_
        refine keeps_bind keeps_isException fun raised => ?_
        split
        · exact keeps_pure _
        · exact keeps_pure _
  · refine keeps_bind (stable.keeps_readRowsOrCols _ _ _ _) fun qresult => ?_
    refine keeps_bind keeps_isException fun raised => ?_
    split
    · exact keeps_pure _
    · exact keeps_pure _
  · exact keeps_pure _
  · exact stable.keeps_getCommand_then fun cmd => keeps_pure _
  · refine keeps_bind stable.describing.keeps_retrColinfo fun failed => ?_
    split
    · exact keeps_pure _
    · exact keeps_bind (stable.keeps_readRowsOrCols _ _ _ _) fun _ =>
        keeps_bind (stable.keeps_modifyCommand fun _ => ⟨rfl, rfl⟩) fun _ => keeps_pure _
  · refine keeps_bind (stable.keeps_doException _ _) fun _ => ?_
    refine keeps_bind keeps_isException fun raised => ?_
    split
    · exact keeps_pure _
    · exact keeps_pure _

end ReadingStable

end Closure

/-! ### What reading a command leaves as it was -/

/-- An entry that reading a command writes to the log: a value, or a call that reads the results of
the command through the handle it holds. -/
def Entry.IsReadOf (entry : Entry) (command : Option Command) : Prop :=
  (∃ datafmt cell, entry.event = .value datafmt cell) ∨
    ∃ call reply cmd, entry.event = .call call reply ∧ call.isReading = true ∧
      command = some cmd ∧ call.command? = some cmd.mCmd

/-- The state after reading a command: its own fields have changed, except for its handle and its
query, and besides ct-lib and its messages only the log and the sink have grown. -/
structure Reads (id : CommandId) (world after : World σ) : Prop where
  others : ∀ other, other ≠ id → after.commands other = world.commands other
  gone : world.commands id = none → after.commands id = none
  own : ∀ cmd, world.commands id = some cmd → ∃ cmd', after.commands id = some cmd' ∧
    cmd'.mCmd = cmd.mCmd ∧ cmd'.query = cmd.query
  log : ∃ new, after.log = new ++ world.log ∧ ∀ entry ∈ new, entry.depth = world.depth ∧
    entry.IsReadOf (world.commands id)
  xsink : world.xsink <:+ after.xsink
  depth : after.depth = world.depth
  nextCommand : after.nextCommand = world.nextCommand
  nextHandle : after.nextHandle = world.nextHandle
  connection : after.connection = world.connection
  isOpen : after.isOpen = world.isOpen
  connectionAborted : after.connectionAborted = world.connectionAborted
  statements : after.statements = world.statements

namespace Reads

variable {id : CommandId} {world middle after : World σ}

theorem refl (id : CommandId) (world : World σ) : Reads id world world where
  others _ _ := rfl
  gone held := held
  own cmd held := ⟨cmd, held, rfl, rfl⟩
  log := ⟨[], rfl, fun _ member => absurd member List.not_mem_nil⟩
  xsink := List.suffix_rfl
  depth := rfl
  nextCommand := rfl
  nextHandle := rfl
  connection := rfl
  isOpen := rfl
  connectionAborted := rfl
  statements := rfl

theorem trans (first : Reads id world middle) (second : Reads id middle after) :
    Reads id world after where
  others other different := (second.others other different).trans (first.others other different)
  gone held := second.gone (first.gone held)
  own cmd held := by
    obtain ⟨cmd', held', handle, query⟩ := first.own cmd held
    obtain ⟨cmd'', held'', handle', query'⟩ := second.own cmd' held'
    exact ⟨cmd'', held'', handle'.trans handle, query'.trans query⟩
  log := by
    obtain ⟨new, log, read⟩ := first.log
    obtain ⟨new', log', read'⟩ := second.log
    refine ⟨new' ++ new, by rw [log', log, List.append_assoc], fun entry member => ?_⟩
    rcases List.mem_append.mp member with later | earlier
    · obtain ⟨depth, value | ⟨call, reply, cmd', event, reading, held', about⟩⟩ := read' entry later
      · exact ⟨depth.trans first.depth, .inl value⟩
      · cases held : world.commands id with
        | none => exact absurd held' (by simp [first.gone held])
        | some cmd =>
          obtain ⟨cmd'', held'', handle, -⟩ := first.own cmd held
          cases held'.symm.trans held''
          exact ⟨depth.trans first.depth, .inr ⟨call, reply, cmd, event, reading, rfl, by
            rw [about, handle]⟩⟩
    · exact read entry earlier
  xsink := first.xsink.trans second.xsink
  depth := second.depth.trans first.depth
  nextCommand := second.nextCommand.trans first.nextCommand
  nextHandle := second.nextHandle.trans first.nextHandle
  connection := second.connection.trans first.connection
  isOpen := second.isOpen.trans first.isOpen
  connectionAborted := second.connectionAborted.trans first.connectionAborted
  statements := second.statements.trans first.statements

instance (id : CommandId) : Std.Refl (Reads id (σ := σ)) := ⟨refl id⟩

instance (id : CommandId) : IsTrans (World σ) (Reads id) := ⟨fun _ _ _ => trans⟩

/-- Writing one entry to the log. -/
theorem of_entry {entry : Entry} (depth : entry.depth = world.depth)
    (read : entry.IsReadOf (world.commands id)) (same : after = { world with
      env := after.env
      log := entry :: world.log
      clientMsgs := after.clientMsgs
      serverMsgs := after.serverMsgs }) : Reads id world after := by
  rw [same]
  exact { refl id world with
    log := ⟨[entry], rfl, fun other member => List.mem_singleton.mp member ▸ ⟨depth, read⟩⟩ }

/-- Reading a command keeps this relation. -/
theorem readingStable (cfg : Config σ) (id : CommandId) :
    ReadingStable cfg id (Reads id) fun reason last after => last = after ∧
    reason ≠ .terminate where
  raise world err desc := { refl id world with xsink := List.suffix_cons _ _ }
  discard world := { refl id world with }
  halts _ _ other := ⟨rfl, other⟩
  call _ call _ held reading about :=
    of_entry rfl (.inr ⟨call, _, _, rfl, reading, held, about⟩) rfl
  value _ datafmt cell := of_entry rfl (.inl ⟨datafmt, cell, rfl⟩) rfl
  modify world change kept := { refl id world with
    others := fun other different => Function.update_of_ne different _ _
    gone := fun held => by simp [held]
    own := fun cmd held => ⟨change cmd, by simp [held], kept cmd⟩ }

end Reads

end Sybase
