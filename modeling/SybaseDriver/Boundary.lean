/-
This file proves which errors stay inside the driver. The methods written with a
wrapper raise an error they catch in the sink; `prepare`, `prepare_raw`, `bind` and
the close of a Datasource have no wrapper, and each of them may invalidate the
registered statement, which throws when that statement holds no command. A destructor
lets an error out only where the cancel of `command::clear` fails.
-/

import SybaseDriver.Operations

namespace Sybase

open Program Connection

variable {σ : Type} {cfg : Config σ} {world : World σ}

/-! ### The registered statement -/

/-- The statement that is registered, if there is one, holds a command. -/
def World.RegisteredHolds (world : World σ) : Prop :=
  ∀ statement, world.connection.stmt = some statement →
    ∃ wrap cmd, world.statements statement = some wrap ∧ wrap.m.context = some cmd

/-- The private data of a statement stay where they are. -/
def WrapKept (statement : StatementId) (world after : World σ) : Prop :=
  (world.statements statement).isSome → (after.statements statement).isSome

/-- No statement gets registered. -/
def Unregistered (world after : World σ) : Prop :=
  world.connection.stmt = none → after.connection.stmt = none

instance (statement : StatementId) : Std.Refl (WrapKept (σ := σ) statement) := ⟨fun _ kept => kept⟩

instance (statement : StatementId) : IsTrans (World σ) (WrapKept statement) :=
  ⟨fun _ _ _ first second kept => second (first kept)⟩

instance : Std.Refl (Unregistered (σ := σ)) := ⟨fun _ none => none⟩

instance : IsTrans (World σ) Unregistered := ⟨fun _ _ _ first second none => second (first none)⟩

theorem WrapKept.stable (cfg : Config σ) (statement : StatementId) :
    Stable cfg (WrapKept statement) StopsAnyhow where
  raise _ _ _ kept := kept
  discard _ kept := kept
  halts _ _ _ := trivial
  call _ _ _ _ _ kept := kept
  record _ _ _ kept := kept
  loudCall _ _ _ _ kept := kept
  loudRecord _ _ _ kept := kept
  commands _ _ _ _ _ _ _ kept := kept
  connection _ _ _ _ _ _ kept := kept
  statements _ _ same kept := (same statement).trans kept
  nested keeps world := (wp_nested _).mpr (keeps { world with depth := world.depth + 1 })
  terminated _ _ _ := trivial

theorem Unregistered.stable (cfg : Config σ) : Stable cfg Unregistered StopsAnyhow where
  raise _ _ _ none := none
  discard _ none := none
  halts _ _ _ := trivial
  call _ _ _ _ _ none := none
  record _ _ _ none := none
  loudCall _ _ _ _ none := none
  loudRecord _ _ _ none := none
  commands _ _ _ _ _ _ _ none := none
  connection _ _ _ _ change _ none := change.elim (fun same => same.trans none) id
  statements _ _ _ none := none
  nested keeps world := (wp_nested _).mpr (keeps { world with depth := world.depth + 1 })
  terminated _ _ _ := trivial

theorem Unregistered.keeps_closeAndReconnect (cfg : Config σ) (bound : Nat) (cmd : CommandId)
    (tryReconnect : Bool) :
    Keeps Unregistered StopsAnyhow (closeAndReconnect cfg bound cmd tryReconnect) :=
  (stable cfg).keeps_closeAndReconnect
    (fun tryReconnect reconnects =>
      (stable cfg).keeps_reopenConnection (fun _ none => none) reconnects tryReconnect)
    bound cmd tryReconnect

/-! ### Programs no error leaves -/

/-- A run from a state that returns, or stops the process as `StopsAtClear` says, and extends the
log. -/
abbrev Contained {α : Type} (program : Driver σ α) (world : World σ) : Prop :=
  wp program (fun _ after => Extends world after) noThrow (Halted Extends StopsAtClear world) world

/-- A contained run, after steps that have extended the log. -/
theorem Contained.after {α : Type} {program : Driver σ α} {middle : World σ}
    (contained : Contained program middle) (first : Extends world middle) :
    wp program (fun _ after => Extends world after) noThrow (Halted Extends StopsAtClear world)
      middle :=
  wp_mono contained (fun _ _ extends' => first.trans extends') (fun _ _ absent => absent)
    fun _ _ ⟨last, extends', stopped⟩ => ⟨last, first.trans extends', stopped⟩

/-- A contained run, and then a program that is contained after it. -/
theorem contained_bind {α β : Type} {program : Driver σ α} {next : α → Driver σ β}
    (onValue : α → World σ → Prop)
    (first : wp program (fun value after => Extends world after ∧ onValue value after) noThrow
      (Halted Extends StopsAtClear world) world)
    (second : ∀ value after, onValue value after → Contained (next value) after) :
    Contained (program >>= next) world := by
  rw [Contained, wp_bind]
  exact wp_mono_ok first fun value middle kept => (second value middle kept.2).after kept.1

/-- A contained run, and then a program that is always contained. -/
theorem contained_then {α β : Type} {program : Driver σ α} {next : α → Driver σ β}
    (first : Contained program world) (second : ∀ value after, Contained (next value) after) :
    Contained (program >>= next) world :=
  contained_bind (fun _ _ => True) (wp_mono_ok first fun _ _ kept => ⟨kept, trivial⟩)
    fun value after _ => second value after

/-- A program that extends the log and never throws is contained. -/
theorem contained_of_keeps {α : Type} {program : Driver σ α}
    (keeps : Keeps Extends StopsAtClear program) (never : NeverThrows program) (world : World σ) :
    Contained program world := keeps.returns never world

theorem contained_modify {change : World σ → World σ} (depth : (change world).depth = world.depth)
    (log : (change world).log = world.log) : Contained (modify change) world :=
  Extends.of_eq depth log

/-- Raising an error in the sink. -/
theorem contained_raise (error : Error) (world : World σ) : Contained error.raise world := by
  rw [Contained, Error.raise, wp_bind, wp_isException, wp_when, wp_raiseException]
  exact ⟨fun _ => Extends.of_eq rfl rfl, fun _ => Extends.refl world⟩

/-- An error that was caught is raised in the sink. -/
theorem contained_tryCatch {α : Type} {method : Driver σ α}
    (keeps : Keeps Extends StopsAtClear method) (failed : α) (world : World σ) :
    Contained (tryCatch method fun error => do
      error.raise
      pure failed) world := by
  rw [Contained, wp_tryCatch]
  refine wp_mono (keeps world) (fun _ _ kept => kept) (fun error after kept => ?_)
    fun _ _ halted => halted
  rw [wp_bind]
  exact (contained_raise error after).after kept

/-! ### Invalidating the registered statement -/

theorem neverThrows_cancelDisconnect (id : CommandId) :
    NeverThrows (Command.cancelDisconnect cfg id) := by
  have command : NeverThrows (getCommand id : Driver σ Command) := fun world =>
    (wp_getCommand id).mpr ⟨fun _ _ => trivial, fun _ => trivial⟩
  have handle : ∀ assertion condition, NeverThrows (assert cfg assertion condition) :=
    fun _ _ => neverThrows_when _ (neverThrows_halt _)
  have call : ∀ site call, NeverThrows (ctCallAt cfg site call) := fun _ _ _ => trivial
  refine neverThrows_bind command fun cmd => neverThrows_bind (handle _ _) fun _ => ?_
  refine neverThrows_bind (neverThrows_bind command fun cmd => neverThrows_bind
    (handle _ _) fun _ =>
    neverThrows_bind (call _ _) fun _ => neverThrows_pure _) fun _ => ?_
  exact neverThrows_bind (call _ _) fun _ => neverThrows_modify _

/-- A statement that holds a command is invalidated without an error. -/
theorem contained_invalidate {statement : StatementId} {wrap : ModuleWrap} {cmd : CommandId}
    (held : world.statements statement = some wrap) (context : wrap.m.context = some cmd) :
    Contained (invalidate cfg statement) world := by
  have stable := Extends.stable cfg
  refine contained_bind (fun _ after => after.statements statement = some wrap)
    ⟨stable.record world _ rfl, held⟩ fun _ after held => ?_
  refine contained_bind (fun read after => read = wrap) ?_ fun _ after same => ?_
  · rw [wp_getModuleWrap_some held]
    exact ⟨Extends.refl after, rfl⟩
  · subst same
    refine contained_then (contained_of_keeps (stable.keeps_assert _ _)
      (neverThrows_when _ (neverThrows_halt _)) _) fun _ after => ?_
    simp only [context]
    exact contained_of_keeps (keeps_bind (stable.closeStable.keeps_cancelDisconnect cmd) fun _ =>
      stable.keeps_modifyModuleWrap _ _)
      (neverThrows_bind (neverThrows_cancelDisconnect cmd) fun _ => neverThrows_modify _) after

theorem contained_invalidateStatement (holds : world.RegisteredHolds) :
    Contained (invalidateStatement cfg) world := by
  rw [invalidateStatement, Contained, wp_bind, wp_get]
  cases registered : world.connection.stmt with
  | none => exact Extends.refl world
  | some statement =>
    obtain ⟨wrap, cmd, held, context⟩ := holds statement registered
    exact contained_then (contained_invalidate held context) fun _ _ => contained_modify rfl rfl

/-! ### The wrappers -/

/-- The state after the private data of a statement were created. -/
def World.created (world : World σ) (statement : StatementId) : World σ := { world with
  statements := Function.update world.statements statement (some DBModuleWrap.create) }

section Wrappers

/-- Every operation extends the log. -/
theorem Extends.opStable (cfg : Config σ) : OpStable cfg Extends StopsAtClear where
  toStable := stable cfg
  clear _ := of_eq rfl rfl
  wraps _ _ := of_eq rfl rfl
  register _ _ := of_eq rfl rfl
  connect _ := of_eq rfl rfl
  disconnect _ := of_eq rfl rfl
  setOpen _ _ := of_eq rfl rfl

theorem contained_run {α : Type} (statement : StatementId) (failed : α) {method : Driver σ α}
    (keeps : Keeps Extends StopsAtClear method) (world : World σ) :
    Contained (DBModuleWrap.run cfg statement failed method) world := by
  refine contained_tryCatch (keeps_bind keeps_isException fun raised => ?_) failed world
  split
  · exact keeps_pure _
  · exact keeps_bind ((Extends.opStable cfg).keeps_moduleWrap statement) fun _ => keeps

theorem contained_exec (statement : StatementId) (world : World σ) :
    Contained (DBModuleWrap.exec cfg statement) world := by
  have stable := Extends.stable cfg
  refine contained_tryCatch (keeps_bind ((Extends.opStable cfg).keeps_moduleWrap statement)
    fun _ => ?_) (-1) world
  exact keeps_bind (stable.keeps_getModuleWrap statement) fun wrap =>
    stable.requestStable.keeps_exec (Extends.keeps_closeAndReconnect cfg cfg.fuel) statement _ _ _

theorem contained_registerStatement (statement : StatementId) (holds : world.RegisteredHolds) :
    Contained (registerStatement cfg statement) world := by
  rw [registerStatement, Contained, wp_bind, wp_get]
  cases registered : world.connection.stmt with
  | none => exact Extends.of_eq rfl rfl
  | some other =>
    obtain ⟨wrap, cmd, held, context⟩ := holds other registered
    exact contained_then (contained_invalidate held context) fun _ _ => contained_modify rfl rfl

/-- `module_wrap` on a statement with private data, or beside a registered statement that holds a
command. Afterwards there are private data. -/
theorem wp_moduleWrap {statement : StatementId}
    (holds : world.statements statement = none → world.RegisteredHolds) :
    wp (DBModuleWrap.moduleWrap cfg statement)
      (fun _ after => Extends world after ∧ (after.statements statement).isSome) noThrow
      (Halted Extends StopsAtClear world) world := by
  cases held : world.statements statement with
  | some wrap =>
    rw [DBModuleWrap.moduleWrap, wp_bind, wp_get, held]
    exact ⟨Extends.refl world, by rw [held]; rfl⟩
  | none =>
    have created : (world.created statement).RegisteredHolds := by
      intro registered same
      obtain ⟨wrap, cmd, other, context⟩ := holds held registered same
      have different : registered ≠ statement := by
        rintro rfl
        simp [held] at other
      exact ⟨wrap, cmd, (Function.update_of_ne different _ _).trans other, context⟩
    have contained : Contained (do
        Statement.checkOpen
        registerStatement cfg statement) (world.created statement) := by
      rw [Contained, wp_bind, Statement.checkOpen, wp_bind, wp_get]
      split
      · exact contained_registerStatement statement created
      · exact ⟨_, Extends.refl _, .inl ⟨by simp, rfl⟩⟩
    have kept : Keeps (WrapKept statement) StopsAnyhow (do
        Statement.checkOpen
        registerStatement cfg statement) :=
      keeps_bind (WrapKept.stable cfg statement).keeps_checkOpen fun _ =>
        keeps_registerStatement (WrapKept.stable cfg statement).closeStable statement fun _ kept =>
          kept
    rw [DBModuleWrap.moduleWrap, wp_bind, wp_get, held]
    have present : ((world.created statement).statements statement).isSome := by
      simp [World.created]
    have same : Extends world (world.created statement) := Extends.of_eq rfl rfl
    exact wp_mono (kept.wp_and (contained.after same))
      (fun _ after both => ⟨both.2, both.1 present⟩) (fun _ _ both => both.2) fun _ _ both => both.2

end Wrappers

/-! ### The methods without a wrapper -/

section Methods

theorem contained_prepareIntern {statement : StatementId} (str : Text)
    (args : Option (List QoreValue)) (present : (world.statements statement).isSome) :
    Contained (DBModuleWrap.prepareIntern cfg statement str args) world := by
  have stable := Extends.stable cfg
  have encode : NeverThrows (DBModuleWrap.encodeSQL cfg str) := by
    rw [DBModuleWrap.encodeSQL, convertEncoding]
    split
    · exact neverThrows_pure _
    · exact neverThrows_bind (neverThrows_modify _) fun _ => neverThrows_pure _
  refine contained_bind (fun _ _ => True) (wp_mono_ok (wp_moduleWrap ?_)
    fun _ _ kept => ⟨kept.1, trivial⟩) fun _ after _ => ?_
  · exact fun absent => absurd present (by simp [absent])
  · exact contained_of_keeps
      (keeps_bind (stable.keeps_convertEncoding _ _) fun _ =>
        keeps_bind (stable.keeps_modifyModuleWrap _ _) fun _ => keeps_pure _)
      (neverThrows_bind encode fun _ => neverThrows_bind (neverThrows_modify _) fun _ =>
        neverThrows_pure _) after

/-- `prepare` and `prepare_raw`. -/
theorem contained_prepare {statement : StatementId} (raw : Bool) (str : Text)
    (args : Option (List QoreValue))
    (holds : world.statements statement = none → world.RegisteredHolds) :
    Contained (do
      DBModuleWrap.moduleWrap cfg statement
      modifyModuleWrap statement fun wrap => { wrap with raw := raw }
      DBModuleWrap.prepareIntern cfg statement str args) world := by
  refine contained_bind _ (wp_moduleWrap holds) fun _ after present => ?_
  refine contained_bind (fun _ after => (after.statements statement).isSome)
    ⟨Extends.of_eq rfl rfl, ?_⟩ fun _ after present => contained_prepareIntern str args present
  simpa using present

theorem contained_bindArguments {statement : StatementId} (l : List QoreValue)
    (holds : world.statements statement = none → world.RegisteredHolds) :
    Contained (DBModuleWrap.bind cfg statement l) world :=
  contained_bind _ (wp_moduleWrap holds) fun _ _ _ =>
    contained_then (contained_modify rfl rfl) fun _ after => Extends.refl after

theorem neverThrows_destroyOption : ∀ cmd, NeverThrows (Command.destroyOption cfg cmd)
  | some _ => neverThrows_bind (neverThrows_tryCatch fun _ => neverThrows_halt _) fun _ =>
    neverThrows_modify _
  | none => neverThrows_pure ()

theorem contained_close (statement : StatementId) (world : World σ) :
    Contained (DBModuleWrap.close cfg statement) world := by
  have isOpen : NeverThrows (Statement.checkOpen : Driver σ Unit) :=
    neverThrows_bind neverThrows_get
    fun world => by split; exacts [neverThrows_pure _, neverThrows_halt _]
  have present : NeverThrows (getModuleWrap statement : Driver σ ModuleWrap) := fun world =>
    (wp_getModuleWrap statement).mpr ⟨fun _ _ => trivial, fun _ => trivial⟩
  refine contained_of_keeps ((Extends.opStable cfg).keeps_close statement)
    (neverThrows_bind present fun wrap => ?_) world
  refine neverThrows_bind (neverThrows_when _ (neverThrows_bind isOpen fun _ => ?_)) fun _ => ?_
  · exact neverThrows_bind neverThrows_get fun _ =>
      neverThrows_bind (neverThrows_when _ (neverThrows_halt _)) fun _ => neverThrows_modify _
  · exact neverThrows_bind (neverThrows_modify _) fun _ =>
      neverThrows_bind (neverThrows_destroyOption _) fun _ => neverThrows_pure _

/-- The destructor of a connection, when the registered statement holds a command. -/
theorem contained_destroy (holds : world.RegisteredHolds) :
    Contained (Connection.destroy cfg) world := by
  have stable := Extends.stable cfg
  have call : ∀ {call : CtCall}, call.isQuiet = true → Keeps Extends StopsAtClear
      (ctCall cfg call) :=
    fun quiet => stable.keeps_ctCallAt (by simp) quiet
  have called : ∀ call, NeverThrows (ctCall cfg call) := fun _ _ => trivial
  have asserted : ∀ condition, NeverThrows (assert cfg .other condition) :=
    fun _ => neverThrows_when _ (neverThrows_halt _)
  have invalidates : Contained (tryCatch (invalidateStatement cfg) fun _ => halt .terminate)
      world := by
    rw [Contained, wp_tryCatch]
    exact wp_mono (contained_invalidateStatement holds) (fun _ _ kept => kept)
      (fun _ _ absent => absent.elim) fun _ _ halted => halted
  refine contained_then invalidates fun _ after => contained_of_keeps ?_ ?_ after
  · refine keeps_bind keeps_get fun world => keeps_when _ fun _ => ?_
    refine keeps_bind (keeps_when _ fun _ => keeps_bind (call rfl) fun _ => keeps_when _ fun _ =>
      keeps_bind (call rfl) fun _ => stable.keeps_assert _ _) fun _ => ?_
    exact keeps_bind (call rfl) fun _ => stable.keeps_assert _ _
  · refine neverThrows_bind neverThrows_get fun world => neverThrows_when _ ?_
    refine neverThrows_bind (neverThrows_when _ (neverThrows_bind (called _) fun _ =>
      neverThrows_when _ (neverThrows_bind (called _) fun _ => asserted _))) fun _ => ?_
    exact neverThrows_bind (called _) fun _ => asserted _

theorem contained_sybaseClose (holds : world.RegisteredHolds) :
    Contained (Datasource.sybaseClose cfg) world := by
  refine contained_bind (fun _ after => after.RegisteredHolds)
    ⟨Extends.of_eq rfl rfl, holds⟩ fun _ after holds => ?_
  refine contained_then (contained_destroy holds) fun _ _ => ?_
  exact contained_then (contained_modify rfl rfl) fun _ after => Extends.refl after

/-- `init` on a new connection, which is deleted if `init` throws. No statement gets registered. -/
theorem wp_initOrDestroy (unregistered : world.connection.stmt = none) :
    wp (onThrow (init cfg (topReconnect cfg)) (Connection.destroy cfg))
      (fun _ after => Extends world after ∧ after.connection.stmt = none)
      (fun _ after => Extends world after) (Halted Extends StopsAtClear world) world := by
  have encoding := (Unregistered.stable cfg).sessionStable.keeps_setEncoding
    (fun _ none => none) fun query args singleRow =>
      (Unregistered.stable cfg).keeps_execReadOutput
        (Unregistered.keeps_closeAndReconnect cfg cfg.fuel) query args true true false singleRow
  rw [wp_onThrow]
  refine wp_mono ((Extends.opStable cfg).keeps_initMethod.wp_and
      ((Unregistered.stable cfg).sessionStable.keeps_init encoding world))
    (fun _ _ kept => ⟨kept.1, kept.2 unregistered⟩) (fun _ after kept => ?_) fun _ _ both => both.1
  have holds : after.RegisteredHolds := fun statement registered =>
    absurd registered (by simp [kept.2 unregistered])
  exact wp_mono ((contained_destroy holds).after kept.1) (fun _ _ extends' => extends')
    (fun _ _ absent => absent.elim) fun _ _ halted => halted

/-- `sybase_open` works on a new connection, so its destructor finds no statement registered. -/
theorem contained_sybaseOpen (world : World σ) : Contained (Datasource.sybaseOpen cfg) world := by
  have stable := Extends.stable cfg
  refine contained_tryCatch (fun world => ?_) (-1) world
  rw [wp_bind, wp_modify, wp_bind, wp_isException]
  have first : Extends world { world with
      connection := Datasource.newConnection cfg, connectionAborted := false } :=
    Extends.of_eq rfl rfl
  split
  · exact first
  · split
    · exact Extends.of_eq rfl rfl
    · split
      · exact Extends.of_eq rfl rfl
      · rw [wp_bind]
        refine wp_mono (wp_initOrDestroy rfl) (fun result middle kept => ?_)
          (fun _ _ kept => first.trans kept)
          fun _ _ ⟨last, kept, stopped⟩ => ⟨last, first.trans kept, stopped⟩
        have holds : middle.RegisteredHolds := fun statement registered =>
          absurd registered (by simp [kept.2])
        rw [wp_bind, wp_isException]
        split
        · rw [wp_bind]
          exact wp_mono ((contained_destroy holds).after (first.trans kept.1))
            (fun _ _ extends' => extends') (fun _ _ absent => absent.elim) fun _ _ halted => halted
        · exact (first.trans kept.1).trans (Extends.of_eq rfl rfl)

end Methods

/-! ### Calls -/

/-- The methods without a wrapper that invalidate the registered statement: those that create the
private data of a statement, and the close of a Datasource. -/
def Op.invalidatesUncaught (op : Op) (world : World σ) : Bool :=
  match op with
  | .statement id (.prepare _ _) | .statement id (.prepareRaw _) | .statement id (.bind _) =>
    (world.statements id).isNone
  | .datasource .close => true
  | _ => false

/-- The value of a method is dropped. -/
theorem contained_dropped {α : Type} {method : Driver σ α} (contained : Contained method world) :
    Contained (do
      let _ ← method
      pure ()) world :=
  contained_then contained fun _ after => Extends.refl after

theorem contained_callback {α : Type} {method : Driver σ α}
    (keeps : Keeps Extends StopsAtClear method) (failed : α) (world : World σ) :
    Contained (Datasource.callback failed method) world := contained_tryCatch keeps failed world

theorem contained_statementOp (statement : StatementId) (op : StatementOp)
    (holds : (Op.statement statement op).invalidatesUncaught world = true →
      world.RegisteredHolds) : Contained (op.run cfg statement) world := by
  have stable := Extends.stable cfg
  have reconnects := Extends.keeps_closeAndReconnect cfg cfg.fuel
  have absent : world.statements statement = none → (world.statements statement).isNone = true :=
    fun absent => by rw [absent]; rfl
  cases op with
  | prepare str args =>
    exact contained_dropped (contained_prepare false str args fun none => holds (absent none))
  | prepareRaw str =>
    exact contained_dropped (contained_prepare true str none fun none => holds (absent none))
  | close => exact contained_dropped (contained_close statement world)
  | bind l => exact contained_dropped (contained_bindArguments l fun none => holds (absent none))
  | bindPlaceholders l =>
    exact contained_dropped
      (contained_run statement 0 (stable.methodStable.keeps_bindPlaceholders statement l) world)
  | exec => exact contained_dropped (contained_exec statement world)
  | next =>
    exact contained_dropped (contained_run statement false
      (stable.methodStable.keeps_next reconnects statement) world)
  | fetchRow =>
    exact contained_dropped (contained_run statement none
      (stable.methodStable.keeps_fetchRow statement) world)
  | fetchRows rows =>
    exact contained_dropped
      (contained_run statement none (stable.methodStable.keeps_fetchRows reconnects
        statement rows) world)
  | fetchColumns rows =>
    exact contained_dropped
      (contained_run statement none (stable.methodStable.keeps_fetchColumns statement rows) world)
  | getOutput =>
    exact contained_dropped (contained_run statement none
      (stable.methodStable.keeps_getOutput statement) world)
  | affectedRows =>
    exact contained_dropped
      (contained_run statement 0 (stable.methodStable.keeps_affectedRows statement) world)
  | unsupported => exact contained_dropped (contained_run statement 0 (keeps_pure 0) world)

theorem contained_datasourceOp (op : DatasourceOp)
    (holds : op = .close → world.RegisteredHolds) : Contained (op.run cfg) world := by
  have stable := Extends.opStable cfg
  have sends := stable.keeps_request
  cases op with
  | «open» => exact contained_dropped (contained_sybaseOpen world)
  | close => exact contained_dropped (contained_sybaseClose (holds rfl))
  | select sql args => exact contained_dropped (contained_callback (sends _ _ _ _ _ _) _ world)
  | selectRow sql args =>
    refine contained_dropped
      (contained_callback (keeps_bind (sends _ _ _ _ _ _) fun value => ?_) _ world)
    split
    · exact keeps_pure _
    · exact keeps_pure _
    · exact keeps_bind keeps_isException fun raised => keeps_bind
        (keeps_when _ fun _ => stable.keeps_raiseException _ _) fun _ => keeps_pure _
  | selectRows sql args =>
    refine contained_dropped
      (contained_callback (keeps_bind (sends _ _ _ _ _ _) fun value => ?_) _ world)
    split
    · exact keeps_pure _
    · exact keeps_pure _
  | exec sql args =>
    exact contained_dropped (contained_callback
      (keeps_bind (sends _ _ _ _ _ _) fun _ => keeps_pure _) _ world)
  | execRaw sql =>
    exact contained_dropped (contained_callback
      (keeps_bind (sends _ _ _ _ _ _) fun _ => keeps_pure _) _ world)
  | commit => exact contained_dropped (contained_callback stable.directStable.keeps_commit _ world)
  | rollback =>
    exact contained_dropped (contained_callback stable.directStable.keeps_rollback _ world)
  | getServerVersion =>
    exact contained_dropped
      (contained_callback (stable.keeps_getServerVersion
        (stable.keeps_execReadOutput stable.keeps_topReconnect _ _ _ _ _ _)) _ world)

/-- A method that may invalidate the registered statement without a wrapper is called while that
statement, if there is one, holds a command, and every cancel of `command::clear` succeeds. -/
structure Call.IsContained (cfg : Config σ) (world : World σ) (call : Call) : Prop where
  holds : call.op.invalidatesUncaught world = true → world.RegisteredHolds
  clears : ∀ new, (call.run cfg world).2.log = new ++ world.log →
    ∀ entry ∈ new, ¬entry.IsFailedClear

/-- No error leaves a call, and none leaves a destructor in it. Whether the call comes to an end is
another question: an `assert` may still fail in it, or a loop not end. -/
structure Call.LetsNoErrorOut (cfg : Config σ) (world : World σ) (call : Call) : Prop where
  noThrow : ∀ error after, call.run cfg world ≠ (.throw error, after)
  noTerminate : ∀ after, call.run cfg world ≠ (.halt .terminate, after)

/-- A call that meets the condition lets no error out, from any state. -/
theorem Call.IsContained.letsNoErrorOut {call : Call} (contained : call.IsContained cfg world) :
    call.LetsNoErrorOut cfg world := by
  have program : Contained (call.op.run cfg) (world.calling call) := by
    cases operation : call.op with
    | statement statement op =>
      exact contained_statementOp statement op fun invalidates => contained.holds (by
        rw [operation]
        exact invalidates)
    | datasource op =>
      rw [Op.run, Contained, wp_bind, wp_get]
      split
      · exact contained_datasourceOp op fun isClose => contained.holds (by
          rw [operation, isClose]
          rfl)
      · exact ⟨_, Extends.refl _, .inl ⟨by simp, rfl⟩⟩
  obtain ⟨-, threw, halted⟩ := wp_iff_forall.mp program
  refine ⟨threw, fun after run => ?_⟩
  obtain ⟨last, ⟨-, new, log, -⟩, stopped⟩ := halted .terminate after run
  rcases stopped with ⟨other, -⟩ | ⟨-, entry, isFailed, -, last'⟩
  · exact other rfl
  · have ended : (call.run cfg world).2.log = (entry :: new) ++ world.log := by
      rw [run]
      exact last'.trans (congrArg (entry :: ·) log)
    exact contained.clears _ ended entry List.mem_cons_self isFailed

/-- In a run whose calls meet the condition, no call lets an error out. -/
theorem letsNoErrorOut_of_reachable (cfg : Config σ) {world : World σ}
    (_ : Reachable cfg (fun world call => call.IsContained cfg world) world) {call : Call}
    (contained : call.IsContained cfg world) : call.LetsNoErrorOut cfg world :=
  contained.letsNoErrorOut

/-- A call that prepares a statement. -/
def samplePrepare (statement : StatementId) : Call :=
  ⟨[], .statement statement (.prepare (text "select 1") none)⟩

theorem letsNoErrorOut_of_reachable_prepare : (samplePrepare 0).LetsNoErrorOut
    (Config.sample (CtLib.scripted false) true 1) (World.opened []) := by
  have contained : (samplePrepare 0).IsContained (Config.sample (CtLib.scripted false) true 1)
      (World.opened []) := by
    refine ⟨fun _ _ registered => absurd registered (by simp [World.opened]), ?_⟩
    intro new same entry member
    have empty : new = [] := (List.append_nil new).symm.trans same.symm
    exact absurd member (by simp [empty])
  exact letsNoErrorOut_of_reachable _ (.start ⟨rfl, rfl, rfl, rfl⟩) contained

/-- A statement that was only prepared is registered without a command. Preparing another statement
then throws out of the driver, and closing the Datasource throws out of a destructor. -/
theorem not_letsNoErrorOut_preparedOnly : ∃ world,
    Reachable (Config.sample (CtLib.scripted false) true 1) (fun _ _ => True) world ∧
      ¬(samplePrepare 1).LetsNoErrorOut (Config.sample (CtLib.scripted false) true 1) world ∧
      ¬Call.LetsNoErrorOut (Config.sample (CtLib.scripted false) true 1) world
        ⟨[], .datasource .close⟩ := by
  have start : (World.opened ([] : List Reply)).IsStart := ⟨rfl, rfl, rfl, rfl⟩
  have run : (samplePrepare 0).run (Config.sample (CtLib.scripted false) true 1)
      (World.opened []) = (.ok (), ((samplePrepare 0).run
        (Config.sample (CtLib.scripted false) true 1) (World.opened [])).2) := rfl
  refine ⟨_, .call (.start start) trivial (.inl run), ?_, ?_⟩
  · exact fun inside => inside.noThrow ⟨"TDS-SYBASE", "Not initialized"⟩ _ rfl
  · exact fun inside => inside.noTerminate _ rfl

end Sybase
