/-
This file defines what the log says about the results of a command: whether the next
one may be asked for, one is current and may be fetched, or they have ended. It proves
what the functions of `command` that announce, describe and fetch results do to this
phase and to `lastRes`, and that they make only calls which a rule about the log so far
permits.
-/

import SybaseDriver.Reading

namespace Sybase

open Program Connection Command

variable {σ : Type}

/-! ### Phases -/

/-- `CS_ROW_RESULT`, `CS_PARAM_RESULT` and `CS_STATUS_RESULT`: the results that are fetched. -/
def ResultType.isFetchable : ResultType → Bool
  | row | param | status => true
  | _ => false

/-- Where the results of a command stand: no result is current and the next one may be announced, a
result was announced and is not read to its end, or the command has ended. -/
inductive Phase where
  | waiting
  | current
  | ended
  deriving DecidableEq, Repr

/-- The calls after which a command has no results: it is canceled or dropped, or with it all
commands of the connection. -/
def CtCall.ends (handle : Handle) : CtCall → Bool
  | cancel cmd | cmdDrop cmd => cmd = some handle
  | cancelAll | close _ => true
  | _ => false

/-- The phase of a command after a call. -/
def Phase.next (handle : Handle) (phase : Phase) (call : CtCall) (reply : Reply) : Phase :=
  match call with
  | .send cmd => if cmd = some handle ∧ reply.code = .succeed then .waiting else phase
  | .results cmd =>
    if cmd = some handle then
      if reply.code = .endResults then .ended
      else if reply.code = .succeed ∧ reply.resultType.isFetchable = true then .current
      else phase
    else phase
  | .fetch cmd =>
    if cmd = some handle ∧ reply.code = .endData ∧ phase = .current then .waiting else phase
  | call => if call.ends handle then .ended else phase

/-- The phase of a command after an entry of the log. -/
def Entry.nextPhase (handle : Handle) (entry : Entry) (phase : Phase) : Phase :=
  match entry.event with
  | .call call reply => phase.next handle call reply
  | _ => phase

/-- The phase of a command according to the log. Without a handle there are no results. -/
def phase (cmd : Option Handle) (log : List Entry) : Phase :=
  match cmd with
  | none => .ended
  | some handle => log.foldr (Entry.nextPhase handle) .ended

section Phase

variable {lib : CtLib σ} {world : World σ} {cmd : Option Handle}

theorem phase_record (site : Site) {event : Event}
    (noCall : ∀ call reply, event ≠ .call call reply) :
    phase cmd (world.record site event).log = phase cmd world.log := by
  cases cmd with
  | none => rfl
  | some handle =>
    cases event with
    | call call reply => exact absurd rfl (noCall call reply)
    | _ => rfl

/-- Only some of the calls say something about the results of a command. -/
theorem phase_answered_of_quiet (site : Site) {call : CtCall}
    (quiet : ∀ handle reply old, Phase.next handle old call reply = old) :
    phase cmd (world.answered lib site call).log = phase cmd world.log := by
  cases cmd with
  | none => rfl
  | some handle => exact quiet handle _ _

/-- An announcement makes a result current, ends the command or leaves the phase as it was. -/
theorem phase_results (site : Site) :
    phase cmd (world.answered lib site (.results cmd)).log =
      match (lib.reply (.results cmd) world.env).1.code with
      | .endResults => .ended
      | .succeed =>
        if (lib.reply (.results cmd) world.env).1.resultType.isFetchable then .current
        else phase cmd world.log
      | _ => phase cmd world.log := by
  cases cmd with
  | none => rfl
  | some handle =>
    show Phase.next handle (phase (some handle) world.log) (.results (some handle)) _ = _
    rw [Phase.next, if_pos rfl]
    cases code : (lib.reply (.results (some handle)) world.env).1.code <;> simp

theorem phase_fetch (site : Site) (current : phase cmd world.log = .current) :
    phase cmd (world.answered lib site (.fetch cmd)).log =
      if (lib.reply (.fetch cmd) world.env).1.code = .endData then .waiting else .current := by
  cases cmd with
  | none => cases current
  | some handle =>
    show Phase.next handle (phase (some handle) world.log) (.fetch (some handle)) _ = _
    rw [Phase.next, current]
    simp

theorem phase_cancel (site : Site) :
    phase cmd (world.answered lib site (.cancel cmd)).log = .ended := by
  cases cmd with
  | none => rfl
  | some handle =>
    exact if_pos (decide_eq_true rfl)

end Phase

/-! ### Calls that a rule permits -/

/-- The calls that describe, bind and fetch the rows of a result. -/
def CtCall.isFetching : CtCall → Bool
  | numData _ | describe _ _ | bind _ _ _ | fetch _ => true
  | _ => false

/-- The log has grown by calls that were permitted by a rule about what was logged before. -/
inductive Lawful (rule : CtCall → List Entry → Prop) (old : List Entry) : List Entry → Prop where
  | refl : Lawful rule old old
  | step {log : List Entry} (entry : Entry) (earlier : Lawful rule old log)
      (permitted : ∀ call reply, entry.event = .call call reply → rule call log) :
      Lawful rule old (entry :: log)

theorem Lawful.trans {rule : CtCall → List Entry → Prop} {first second third : List Entry}
    (earlier : Lawful rule first second) (later : Lawful rule second third) :
    Lawful rule first third := by
  induction later with
  | refl => exact earlier
  | step entry _ permitted inductionHypothesis => exact .step entry inductionHypothesis permitted

theorem Lawful.mono {rule weaker : CtCall → List Entry → Prop} {old log : List Entry}
    (lawful : Lawful rule old log) (weaken : ∀ call log, rule call log → weaker call log) :
    Lawful weaker old log := by
  induction lawful with
  | refl => exact .refl
  | step entry _ permitted inductionHypothesis =>
    exact .step entry inductionHypothesis fun call reply event =>
      weaken _ _ (permitted call reply event)

/-- The last call that was made since is permitted. -/
theorem Lawful.newest {rule : CtCall → List Entry → Prop} {old rest log : List Entry}
    {entry : Entry} (lawful : Lawful rule old log) (last : log = entry :: rest)
    (longer : old.length ≤ rest.length) {call : CtCall} {reply : Reply}
    (event : entry.event = .call call reply) : rule call rest := by
  cases lawful with
  | refl => exact absurd (congrArg List.length last) (Nat.ne_of_lt (Nat.lt_succ_of_le longer))
  | step entry' earlier permitted =>
    cases last
    exact permitted call reply event

/-- A run makes calls that the rule permits. -/
def Obeys (rule : CtCall → List Entry → Prop) (world after : World σ) : Prop :=
  Lawful rule world.log after.log

/-- The process stops after calls that the rule permits. -/
def StopsObeying (rule : CtCall → List Entry → Prop) (_ : Halt) (last after : World σ) : Prop :=
  Obeys rule last after

namespace Obeys

variable {rule : CtCall → List Entry → Prop} {world after : World σ}

instance : Std.Refl (Obeys (σ := σ) rule) := ⟨fun _ => .refl⟩

instance : IsTrans (World σ) (Obeys rule) := ⟨fun _ _ _ => Lawful.trans⟩

/-- The process stops after steps that obey the rule. -/
theorem of_halted {reason : Halt}
    (halted : Halted (Obeys rule) (StopsObeying rule) world reason after) :
    Obeys rule world after :=
  let ⟨_, kept, stopped⟩ := halted
  kept.trans stopped

theorem of_eq (same : after.log = world.log) : Obeys rule world after := by
  rw [Obeys, same]
  exact .refl

theorem of_call (lib : CtLib σ) (site : Site) {call : CtCall} (permitted : rule call world.log) :
    Obeys rule world (world.answered lib site call) :=
  .step _ .refl fun _ _ same => by
    cases same
    exact permitted

theorem of_record (site : Site) {event : Event} (noCall : ∀ call reply, event ≠ .call call reply) :
    Obeys rule world (world.record site event) :=
  .step _ .refl fun call reply same => absurd same (noCall call reply)

end Obeys

/-- A run that makes only calls that the rule permits, with its postconditions. -/
abbrev ReachesBy {α : Type} (rule : CtCall → List Entry → Prop) (program : Driver σ α)
    (onOk : α → World σ → Prop) (onThrow : World σ → Prop) (world : World σ) : Prop :=
  Program.Reaches (Obeys rule) (StopsObeying rule) program onOk onThrow world

end Sybase

namespace Program.Reaches

open Sybase

variable {σ : Type} {relation : World σ → World σ → Prop} {stops : Halt → World σ → World σ → Prop}
  {α β : Type} {world : World σ} {onNext : β → World σ → Prop} {onThrow : World σ → Prop}

/-! ### The primitives of the driver -/

theorem isException {next : Bool → Driver σ β}
    (rest : Reaches relation stops (next !world.xsink.isEmpty) onNext onThrow world) :
    Reaches relation stops (Sybase.isException >>= next) onNext onThrow world :=
  (wp_bind _ next).mpr rest

theorem getCommand [Std.Refl relation] (base : BaseStable relation stops) {id : CommandId}
    {next : Command → Driver σ β}
    (rest : ∀ cmd, world.commands id = some cmd →
      Reaches relation stops (next cmd) onNext onThrow world) :
    Reaches relation stops (Sybase.getCommand id >>= next) onNext onThrow world := by
  rw [Reaches, wp_bind, wp_getCommand]
  exact ⟨rest, fun _ => ⟨world, refl_of relation world, base.halts world _ (by simp)⟩⟩

theorem assert [Std.Refl relation] (base : BaseStable relation stops) {cfg : Config σ}
    {assertion : Assertion} {condition : Bool} {next : Unit → Driver σ β}
    (rest : Reaches relation stops (next ()) onNext onThrow world) :
    Reaches relation stops (Sybase.assert cfg assertion condition >>= next) onNext onThrow
      world := by
  rw [Reaches, wp_bind, wp_assert]
  exact ⟨fun _ => ⟨world, refl_of relation world, base.halts world _ (by simp)⟩, fun _ => rest⟩

theorem call [IsTrans (World σ) relation] {site : Site} {call : CtCall} {cfg : Config σ}
    {next : Reply → Driver σ β} (related : relation world (world.answered cfg.lib site call))
    (rest : Reaches relation stops (next (cfg.lib.reply call world.env).1) onNext onThrow
      (world.answered cfg.lib site call)) :
    Reaches relation stops (ctCallAt cfg site call >>= next) onNext onThrow world := by
  rw [Reaches, wp_bind, wp_ctCallAt]
  exact rest.after related

theorem raiseException [IsTrans (World σ) relation] (raises : RaiseStable relation)
    {err desc : String} {next : Unit → Driver σ β}
    (rest : Reaches relation stops (next ()) onNext onThrow
      { world with xsink := ⟨err, desc⟩ :: world.xsink }) :
    Reaches relation stops (Sybase.raiseException err desc >>= next) onNext onThrow world :=
  modify (raises.raise world err desc) rest

theorem doException (raises : RaiseStable relation) {err fmt : String}
    {onResult : Unit → World σ → Prop} (post : onThrow world.discarded) :
    Reaches relation stops (Connection.doException err fmt) onResult onThrow world :=
  (wp_doException err fmt).mpr ⟨raises.discard world, post⟩

/-- What follows `do_exception` is never run. -/
theorem thrown (raises : RaiseStable relation) {err fmt : String} {next : Unit → Driver σ β}
    (post : onThrow world.discarded) :
    Reaches relation stops (Connection.doException err fmt >>= next) onNext onThrow world := by
  rw [Reaches, wp_bind, wp_doException]
  exact ⟨raises.discard world, post⟩

end Program.Reaches

namespace Sybase

open Program Connection Command

variable {σ : Type}

/-- The calls are not about messages, the sink or the ways to stop. -/
theorem Obeys.baseStable (rule : CtCall → List Entry → Prop) :
    BaseStable (Obeys (σ := σ) rule) (StopsObeying rule) where
  raise _ _ _ := of_eq rfl
  discard _ := of_eq rfl
  halts _ _ _ := .refl

/-! ### Reading a command -/

/-- The rule permits the calls that fetch a current result of a command, and those that neither
fetch nor announce. -/
structure Permits (rule : CtCall → List Entry → Prop) (cmd : Option Handle) : Prop where
  fetching : ∀ call log, call.isFetching = true → call.command? = some cmd →
    phase cmd log = .current → rule call log
  others : ∀ call log, call.isFetching = false → call ≠ .results cmd → rule call log

/-- A command with its handle, its `lastRes`, and its phase according to the log. -/
def InPhase (id : CommandId) (cmd : Option Handle) (res : ResType) (standing : Phase)
    (world : World σ) : Prop :=
  ∃ command, world.commands id = some command ∧ command.mCmd = cmd ∧ command.lastRes = res ∧
    phase cmd world.log = standing

namespace InPhase

variable {cfg : Config σ} {rule : CtCall → List Entry → Prop} {id : CommandId}
  {cmd : Option Handle} {res : ResType} {standing : Phase} {world after : World σ}

theorem now (holds : InPhase id cmd res standing world) : phase cmd world.log = standing := by
  obtain ⟨-, -, -, -, now⟩ := holds
  exact now

theorem of_eq (holds : InPhase id cmd res standing world)
    (commands : after.commands id = world.commands id)
    (same : phase cmd after.log = phase cmd world.log) : InPhase id cmd res standing after := by
  obtain ⟨command, held, handle, last, now⟩ := holds
  exact ⟨command, commands.trans held, handle, last, same.trans now⟩

/-- A change of the command. -/
theorem change (holds : InPhase id cmd res standing world) (change : Command → Command)
    {res' : ResType} (handle : ∀ command, (change command).mCmd = command.mCmd)
    (last : ∀ command, command.lastRes = res → (change command).lastRes = res') :
    InPhase id cmd res' standing { world with
      commands := Function.update world.commands id ((world.commands id).map change) } := by
  obtain ⟨command, held, same, lastRes, now⟩ := holds
  refine ⟨change command, by simp [held], (handle command).trans same, last _ lastRes, now⟩

/-- A change of the phase by a call. -/
theorem answered {lib : CtLib σ} {site : Site} {call : CtCall} {standing' : Phase}
    (holds : InPhase id cmd res standing world)
    (now : phase cmd (world.answered lib site call).log = standing') :
    InPhase id cmd res standing' (world.answered lib site call) := by
  obtain ⟨command, held, handle, last, -⟩ := holds
  exact ⟨command, held, handle, last, now⟩

/-- A program that begins with reading the command. -/
theorem getCommand {β : Type} {next : Command → Driver σ β} {onNext : β → World σ → Prop}
    {onThrow : World σ → Prop} (holds : InPhase id cmd res standing world)
    (rest : ∀ command, command.mCmd = cmd → command.lastRes = res →
      ReachesBy rule (next command) onNext onThrow world) :
    ReachesBy rule (Sybase.getCommand id >>= next) onNext onThrow world := by
  obtain ⟨command, held, handle, last, -⟩ := holds
  exact .getCommand (Obeys.baseStable rule) fun other held' => by
    obtain rfl := Option.some_inj.mp (held.symm.trans held')
    exact rest _ handle last

/-- Describing a current result keeps it current. -/
theorem describeStable (cfg : Config σ) (permits : Permits rule cmd) (id : CommandId)
    (res : ResType) : DescribeStable cfg id (Holding (InPhase id cmd res .current) (Obeys rule))
      (StopsObeying rule) where
  raise world _ _ holds := ⟨holds.of_eq rfl rfl, .refl⟩
  discard world holds := ⟨holds.of_eq rfl rfl, .refl⟩
  halts _ _ _ := .refl
  describe {world command} call held describing about holds := by
    obtain ⟨command', held', handle, last, now⟩ := holds
    obtain rfl := Option.some_inj.mp (held.symm.trans held')
    have quiet : phase cmd (world.answered cfg.lib .other call).log = phase cmd world.log :=
      phase_answered_of_quiet .other fun _ _ _ => by
        cases call <;> first | rfl | cases describing
    have fetching : call.isFetching = true := by
      cases call <;> first | rfl | cases describing
    exact ⟨⟨command, held, handle, last, quiet.trans now⟩, Obeys.of_call cfg.lib .other
      (permits.fetching call _ fetching (about.trans (congrArg some handle)) now)⟩
  value world datafmt cell holds := by
    have noCall : ∀ call reply, Event.value datafmt cell ≠ .call call reply := by simp
    exact ⟨holds.of_eq rfl (phase_record .other noCall), Obeys.of_record .other noCall⟩
  adjust world change kept holds :=
    ⟨holds.change _ (fun command => (kept command).1) fun command last =>
      (kept command).2.2.trans last, .refl⟩

end InPhase

/-- A result is current, or it was read to its end. -/
def Fetching (id : CommandId) (cmd : Option Handle) (res : ResType) (world : World σ) : Prop :=
  InPhase id cmd res .current world ∨ InPhase id cmd .resNone .waiting world

section Reading

variable {cfg : Config σ} {rule : CtCall → List Entry → Prop} {id : CommandId}
  {cmd : Option Handle} {res : ResType} {world : World σ}

/-- Fetching a row: there is one and the result stays current, or it is read to its end. -/
theorem reaches_fetchRowIntoBuffers (permits : Permits rule cmd)
    (current : InPhase id cmd res .current world) :
    ReachesBy rule (fetchRowIntoBuffers cfg id)
      (fun more after => if more then InPhase id cmd res .current after
        else InPhase id cmd .resNone .waiting after)
      (InPhase id cmd res .current) world := by
  refine current.getCommand fun command handle _ => ?_
  subst handle
  refine .call (Obeys.of_call cfg.lib .other (permits.fetching _ _ rfl rfl current.now)) ?_
  have moved : phase command.mCmd (world.answered cfg.lib .other (.fetch command.mCmd)).log = _ :=
    phase_fetch .other current.now
  split
  · rename_i code
    rw [code, if_neg (by simp)] at moved
    refine .modify (Obeys.of_eq rfl) ?_
    have stored := (current.answered moved).change (fun cmd => { cmd with
      outBuffers := storeCells cmd.outBuffers
        (cfg.lib.reply (.fetch command.mCmd) world.env).1.cells }) (fun _ => rfl) fun _ last => last
    exact .bind (.when (fun _ => .doException (Obeys.baseStable rule).toRaiseStable
      (stored.of_eq rfl rfl)) fun _ => stored)
      fun _ _ (kept : InPhase id command.mCmd res .current _) => .pure kept
  · rename_i code
    rw [code, if_pos rfl] at moved
    exact .modify (Obeys.of_eq rfl)
      (.pure ((current.answered moved).change _ (fun _ => rfl) fun _ _ => rfl))
  · rename_i code
    rw [code, if_neg (by simp)] at moved
    exact .thrown (Obeys.baseStable rule).toRaiseStable ((current.answered moved).of_eq rfl rfl)
  · rename_i notEnd _
    rw [if_neg notEnd] at moved
    exact .thrown (Obeys.baseStable rule).toRaiseStable ((current.answered moved).of_eq rfl rfl)

theorem reaches_ensureColinfo (permits : Permits rule cmd)
    (current : InPhase id cmd res .current world) :
    ReachesBy rule (ensureColinfo cfg id) (fun _ after => InPhase id cmd res .current after)
      (InPhase id cmd res .current) world :=
  .of_holding (InPhase.describeStable cfg permits id res).keeps_ensureColinfo current

theorem reaches_retrColinfo (permits : Permits rule cmd)
    (current : InPhase id cmd res .current world) :
    ReachesBy rule (retrColinfo cfg id) (fun _ after => InPhase id cmd res .current after)
      (InPhase id cmd res .current) world :=
  .of_holding (InPhase.describeStable cfg permits id res).keeps_retrColinfo current

theorem reaches_fetchRow (permits : Permits rule cmd) (current : InPhase id cmd res .current world)
    (ph : Option (List Text)) :
    ReachesBy rule (fetchRow cfg id ph) (fun _ after => Fetching id cmd res after)
      (Fetching id cmd res) world := by
  refine ((reaches_ensureColinfo permits current).mono (fun _ _ kept => kept) fun _ => .inl).bind
    fun failed _ current => ?_
  split
  · exact .pure (.inl current)
  · refine ((reaches_fetchRowIntoBuffers permits current).mono (fun _ _ kept => kept)
      fun _ => .inl).bind fun more _ fetched => ?_
    cases more with
    | false => exact .pure (.inr fetched)
    | true =>
      have stable := InPhase.describeStable cfg permits id res
      exact (Reaches.of_holding (stable.keeps_outputBuffersToHash ph) fetched).mono
        (fun _ _ => .inl) fun _ => .inl

/-- One pass of the loop that reads rows. -/
theorem reaches_readRowsOnce (permits : Permits rule cmd)
    (current : InPhase id cmd res .current world) (ph : Option (List Text)) (singleRow : Bool)
    (rows : List Hash) :
    ReachesBy rule (readRowsOnce cfg id ph singleRow rows)
      (Sum.elim (fun _ => InPhase id cmd res .current) fun _ => Fetching id cmd res)
      (Fetching id cmd res) world := by
  refine ((reaches_fetchRowIntoBuffers permits current).mono (fun _ _ kept => kept)
    fun _ => .inl).bind fun more _ fetched => ?_
  cases more with
  | false => exact .pure (.inr fetched)
  | true =>
    have stable := InPhase.describeStable cfg permits id res
    refine ((Reaches.of_holding (stable.keeps_outputBuffersToHash ph) fetched).mono
      (fun _ _ kept => kept) fun _ => .inl).bind fun row _ current => .isException ?_
    split
    · exact .pure (.inl current)
    · split
      · exact .raiseException (Obeys.baseStable rule).toRaiseStable
          (.pure (.inl (current.of_eq rfl rfl)))
      · exact .pure current

theorem reaches_readRows (permits : Permits rule cmd) (current : InPhase id cmd res .current world)
    (ph : Option (List Text)) (singleRow : Bool) :
    ReachesBy rule (readRows cfg id ph singleRow) (fun _ after => Fetching id cmd res after)
      (Fetching id cmd res) world := by
  refine ((reaches_ensureColinfo permits current).mono (fun _ _ kept => kept) fun _ => .inl).bind
    fun failed _ current => ?_
  split
  · exact .pure (.inl current)
  · exact Reaches.iterate (fun _ => InPhase id cmd res .current) (fun _ => .refl)
      (fun rows _ current => reaches_readRowsOnce permits current ph singleRow rows) _ _ _ current

/-- One pass of the loop that reads columns. -/
theorem reaches_readColsOnce (permits : Permits rule cmd)
    (current : InPhase id cmd res .current world) (ph : Option (List Text)) (loop : Int × Hash) :
    ReachesBy rule (readColsOnce cfg id ph loop)
      (Sum.elim (fun _ => InPhase id cmd res .current) fun _ => Fetching id cmd res)
      (Fetching id cmd res) world := by
  have stable := InPhase.describeStable cfg permits id res
  refine ((reaches_fetchRowIntoBuffers permits current).mono (fun _ _ kept => kept)
    fun _ => .inl).bind fun more _ fetched => ?_
  cases more with
  | false => exact .pure (.inr fetched)
  | true =>
    refine ((Reaches.of_holding (stable.keeps_setupColumnsIf _ ph _) fetched).mono
      (fun _ _ kept => kept) fun _ => .inl).bind fun h _ current => ?_
    refine ((Reaches.of_holding (stable.keeps_appendBuffersToList h) current).mono
      (fun _ _ kept => kept) fun _ => .inl).bind fun appended _ current => ?_
    split
    · exact .pure (.inl current)
    · split
      · exact .pure (.inl current)
      · exact .pure current

theorem reaches_readCols (permits : Permits rule cmd) (current : InPhase id cmd res .current world)
    (ph : Option (List Text)) (cnt : Int) (cols : Bool) :
    ReachesBy rule (readCols cfg id ph cnt cols) (fun _ after => Fetching id cmd res after)
      (Fetching id cmd res) world := by
  have stable := InPhase.describeStable cfg permits id res
  refine ((reaches_ensureColinfo permits current).mono (fun _ _ kept => kept) fun _ => .inl).bind
    fun failed _ current => ?_
  split
  · exact .pure (.inl current)
  · refine .isException ?_
    split
    · exact .pure (.inl current)
    · refine ((Reaches.of_holding (stable.keeps_setupColumnsIf _ ph _) current).mono
        (fun _ _ kept => kept) fun _ => .inl).bind fun h _ current => ?_
      exact Reaches.iterate (fun _ => InPhase id cmd res .current) (fun _ => .refl)
        (fun loop _ current => reaches_readColsOnce permits current ph loop) _ _ _ current

theorem reaches_readRowsOrCols (permits : Permits rule cmd)
    (current : InPhase id cmd res .current world) (ph : Option (List Text))
    (list cols singleRow : Bool) :
    ReachesBy rule (readRowsOrCols cfg id ph list cols singleRow)
      (fun _ after => Fetching id cmd res after) (Fetching id cmd res) world := by
  refine ((reaches_ensureColinfo permits current).mono (fun _ _ kept => kept) fun _ => .inl).bind
    fun failed _ current => ?_
  split
  · exact .pure (.inl current)
  · split
    · exact reaches_readRows permits current ph singleRow
    · exact (reaches_readCols permits current ph _ cols).bind fun _ _ kept => .pure kept

end Reading

/-! ### Announcing results -/

/-- What an announcement to a command that waits leads to: a result is current, the command has
ended, or it goes on waiting in the phase it was in. -/
def Leads (standing : Phase) (res : ResType) (standing' : Phase) : Prop :=
  (res.isFetchable = true ∧ standing' = .current) ∨ (res.waits ∧ standing' = standing) ∨
    (res = .resEnd ∨ res = .resError) ∧ standing' = .ended

/-- A command after an announcement. -/
def HasAnnounced (id : CommandId) (cmd : Option Handle) (standing : Phase) (res : ResType)
    (world : World σ) : Prop :=
  ∃ standing', Leads standing res standing' ∧ InPhase id cmd res standing' world

/-- A command that waits in a phase. -/
def WaitsIn (id : CommandId) (cmd : Option Handle) (standing : Phase) (world : World σ) : Prop :=
  ∃ res : ResType, res.waits ∧ InPhase id cmd res standing world

section Announcing

variable {cfg : Config σ} {rule : CtCall → List Entry → Prop} {id : CommandId}
  {cmd : Option Handle} {res : ResType} {standing : Phase} {world : World σ}

/-- The row count of a command is read without a change of its phase. -/
theorem reaches_readRowCount (permits : Permits rule cmd)
    (holds : InPhase id cmd res standing world) :
    ReachesBy rule (readRowCount cfg id)
      (fun done after => done = .resDone ∧ InPhase id cmd res standing after)
      (InPhase id cmd res standing) world := by
  have reset : InPhase id cmd res standing { world with
      commands := Function.update world.commands id
        ((world.commands id).map fun cmd => { cmd with rowcount := -1 }) } :=
    holds.change _ (fun _ => rfl) fun _ last => last
  refine .modify (Obeys.of_eq rfl) (reset.getCommand fun command handle _ => ?_)
  subst handle
  refine .call (Obeys.of_call cfg.lib .other (permits.others _ _ rfl (by simp))) ?_
  have quiet : ∀ handle reply old,
      Phase.next handle old (.rowCount command.mCmd) reply = old := fun _ _ _ => rfl
  have read : InPhase id command.mCmd res standing (World.answered _ cfg.lib .other _) :=
    reset.answered ((phase_answered_of_quiet .other quiet).trans reset.now)
  split
  · exact .thrown (Obeys.baseStable rule).toRaiseStable (read.of_eq rfl rfl)
  · exact .modify (Obeys.of_eq rfl) (.pure ⟨rfl, read.change _ (fun _ => rfl) fun _ last => last⟩)

/-- A result that was announced. -/
theorem reaches_announced (permits : Permits rule cmd) (type : ResultType) {old : Phase}
    (holds : InPhase id cmd res (if type.isFetchable then .current else old) world)
    (quiet : world.xsink = []) :
    ReachesBy rule (announced cfg id type)
      (fun result after => ∃ standing', Leads old result standing' ∧
        InPhase id cmd res standing' after ∧ (result = .resRetry → after.xsink = []))
      (InPhase id cmd res old) world := by
  have waits : ∀ {result : ResType}, result.waits → Leads old result old :=
    fun waits => .inr (.inl ⟨waits, rfl⟩)
  cases type with
  | cmdDone =>
    exact (reaches_readRowCount permits holds).mono
      (fun _ _ ⟨done, kept⟩ => ⟨old, waits (.inl done), kept, fun retry => by simp [done] at retry⟩)
      fun _ kept => kept
  | cmdSucceed => exact .pure ⟨old, waits (.inr (.inr rfl)), holds, fun _ => quiet⟩
  | cmdFail => exact .thrown (Obeys.baseStable rule).toRaiseStable (holds.of_eq rfl rfl)
  | other type => exact .thrown (Obeys.baseStable rule).toRaiseStable (holds.of_eq rfl rfl)
  | param => exact .pure ⟨.current, .inl ⟨rfl, rfl⟩, holds, nofun⟩
  | status => exact .pure ⟨.current, .inl ⟨rfl, rfl⟩, holds, nofun⟩
  | row => exact .pure ⟨.current, .inl ⟨rfl, rfl⟩, holds, nofun⟩

/-- Canceling a command ends it. -/
theorem reaches_cancelIntern (permits : Permits rule cmd)
    (holds : InPhase id cmd res standing world)
    (site : Site) {onThrow : World σ → Prop} : ReachesBy rule (cancelIntern cfg site id)
      (fun _ after => InPhase id cmd res .ended after) onThrow world := by
  refine holds.getCommand fun command handle _ => .assert (Obeys.baseStable rule) ?_
  subst handle
  exact .call (Obeys.of_call cfg.lib site (permits.others _ _ rfl (by simp)))
    (.pure (holds.answered (phase_cancel site)))

/-- One pass of the loop that announces a result, from a command that waits. -/
theorem reaches_readNextResult1 (permits : Permits rule cmd)
    (announces : ∀ log, phase cmd log = standing → rule (.results cmd) log) (waits : res.waits)
    (holds : InPhase id cmd res standing world) (quiet : world.xsink = []) (disconnect : Bool) :
    ReachesBy rule (readNextResult1 cfg id disconnect)
      (fun result after => ∃ standing', Leads standing result.1 standing' ∧
        InPhase id cmd res standing' after ∧ (result.1 = .resRetry → after.xsink = []))
      (InPhase id cmd res standing) world := by
  refine .isException ?_
  rw [quiet, if_neg (by simp)]
  refine holds.getCommand fun command handle last => ?_
  subst handle
  rw [last, if_neg (by rcases waits with rfl | rfl | rfl <;> simp)]
  refine .call (Obeys.of_call cfg.lib .other (announces _ holds.now)) ?_
  have moved : phase command.mCmd (world.answered cfg.lib .other (.results command.mCmd)).log = _ :=
    phase_results .other
  split
  · rename_i code
    rw [code] at moved
    exact .pure ⟨.ended, .inr (.inr ⟨.inl rfl, rfl⟩), holds.answered moved, nofun⟩
  · rename_i code
    rw [code, holds.now] at moved
    refine (reaches_cancelIntern permits (holds.answered moved) .readNextResult).bind
      fun failed _ canceled => .raiseException (Obeys.baseStable rule).toRaiseStable
        (.pure ⟨.ended, .inr (.inr ⟨.inr rfl, rfl⟩), ?_, nofun⟩)
    exact canceled.of_eq rfl rfl
  · rename_i code
    rw [code, holds.now] at moved
    refine (reaches_announced permits _ (holds.answered moved) quiet).bind fun _ _ post => ?_
    exact .pure post
  · rename_i notEnd _ notSucceed
    have same : phase command.mCmd (world.answered cfg.lib .other (.results command.mCmd)).log =
        standing := by
      rw [moved]
      split
      · rename_i isEnd
        exact absurd isEnd notEnd
      · rename_i succeeded
        exact absurd succeeded notSucceed
      · exact holds.now
    exact .thrown (Obeys.baseStable rule).toRaiseStable ((holds.answered same).of_eq rfl rfl)

/-- `read_next_result` on a command that waits. Where it throws, the command goes on waiting. -/
theorem reaches_readNextResult (permits : Permits rule cmd)
    (announces : ∀ log, phase cmd log = standing → rule (.results cmd) log)
    (holds : WaitsIn id cmd standing world) (quiet : world.xsink = []) :
    ReachesBy rule (Command.readNextResult cfg id)
      (fun result after => HasAnnounced id cmd standing result.1 after) (WaitsIn id cmd standing)
      world := by
  refine Reaches.iterate (fun _ world => WaitsIn id cmd standing world ∧ world.xsink = [])
    (fun _ => .refl) (fun disconnect world ⟨⟨res, waits, holds⟩, quiet⟩ => ?_) _ _ _ ⟨holds, quiet⟩
  refine ((reaches_readNextResult1 permits announces waits holds quiet disconnect).mono
    (fun _ _ post => post) fun _ kept => ⟨res, waits, kept⟩).bind fun result _ post => ?_
  obtain ⟨standing', leads, moved, still⟩ := post
  have changed := moved.change (fun cmd => { cmd with lastRes := result.1 }) (fun _ => rfl)
    fun _ _ => rfl
  refine .modify (Obeys.of_eq rfl) ?_
  split
  · rename_i retry
    rw [retry] at leads
    obtain ⟨fetchable, -⟩ | ⟨waits, rfl⟩ | ⟨isEnd | isError, -⟩ := leads
    · cases fetchable
    · exact .pure ⟨⟨_, .inr (.inr retry), changed⟩, still retry⟩
    · cases isEnd
    · cases isError
  · exact .pure ⟨standing', leads, changed⟩

/-- `read_next_result` on a command that does not wait makes no call. -/
theorem reaches_readNextResult_stays (stays : ¬res.waits)
    (holds : InPhase id cmd res standing world) (quiet : world.xsink = [])
    {onThrow : World σ → Prop} :
    ReachesBy rule (Command.readNextResult cfg id)
      (fun result after => result = (res, false) ∧ InPhase id cmd res standing after) onThrow
      world := by
  refine Reaches.iterate (fun disconnect world => disconnect = false ∧
    InPhase id cmd res standing world ∧ world.xsink = []) (fun _ => .refl)
    (fun disconnect world ⟨same, holds, quiet⟩ => ?_) _ _ _ ⟨rfl, holds, quiet⟩
  subst same
  have returned : ReachesBy rule (readNextResult1 cfg id false)
      (fun result after => result = (res, false) ∧ InPhase id cmd res standing after) onThrow
      world := by
    refine .isException ?_
    rw [quiet, if_neg (by simp)]
    refine holds.getCommand fun command _ last => ?_
    subst last
    rw [if_pos ⟨fun done => stays (.inl done), fun none => stays (.inr (.inl none)),
      fun retry => stays (.inr (.inr retry))⟩]
    exact .pure ⟨rfl, holds⟩
  refine returned.bind fun result _ ⟨same, holds⟩ => .modify (Obeys.of_eq rfl) ?_
  subst same
  rw [if_neg fun retry => stays (.inr (.inr retry))]
  exact .pure ⟨rfl, holds.change _ (fun _ => rfl) fun _ _ => rfl⟩

/-- `read_next_result` while an exception is pending makes no call, and marks the command as
failed. -/
theorem reaches_readNextResult_raised (holds : InPhase id cmd res standing world)
    (raised : world.xsink ≠ []) {onThrow : World σ → Prop} :
    ReachesBy rule (Command.readNextResult cfg id)
      (fun result after => result = (.resError, false) ∧ InPhase id cmd .resError standing after)
      onThrow world := by
  refine Reaches.iterate (fun disconnect world => disconnect = false ∧
    InPhase id cmd res standing world ∧ world.xsink ≠ []) (fun _ => .refl)
    (fun disconnect world ⟨same, holds, raised⟩ => ?_) _ _ _ ⟨rfl, holds, raised⟩
  subst same
  have returned : ReachesBy rule (readNextResult1 cfg id false)
      (fun result after => result = (.resError, false) ∧ InPhase id cmd res standing after) onThrow
      world := by
    refine .isException ?_
    rw [if_pos (by simpa using raised)]
    exact .pure ⟨rfl, holds⟩
  refine returned.bind fun result _ ⟨same, holds⟩ => .modify (Obeys.of_eq rfl) ?_
  subst same
  exact .pure ⟨rfl, holds.change _ (fun _ => rfl) fun _ _ => rfl⟩

/-- `cancel` on a command that has not come to its end. -/
theorem reaches_cancel (permits : Permits rule cmd) (holds : InPhase id cmd res standing world)
    {onThrow : World σ → Prop} :
    ReachesBy rule (Command.cancel cfg id)
      (fun _ after => if res = .resEnd then InPhase id cmd res standing after
        else InPhase id cmd .resCanceled .ended after) onThrow world := by
  refine holds.getCommand fun command _ last => ?_
  subst last
  by_cases isEnd : command.lastRes = .resEnd
  · rw [if_pos isEnd]
    refine .pure ?_
    rw [if_pos isEnd]
    exact holds
  · rw [if_neg isEnd]
    have marked := holds.change (fun cmd => { cmd with lastRes := .resCanceled }) (fun _ => rfl)
      fun _ _ => rfl
    refine .modify (Obeys.of_eq rfl) ((reaches_cancelIntern permits marked .cancel).mono
      (fun _ _ canceled => ?_) fun _ post => post)
    rw [if_neg isEnd]
    exact canceled

end Announcing

end Sybase
