/-
This file proves who owns the command objects. A statement owns the command of its last execution,
and a function that is running owns the one it has just made; every command has exactly one owner,
and an owner's command is always there. Together with what a command does with its handle, this
says which handles of ct-lib are outstanding: exactly those of the statements, and none once every
statement is closed.
-/

import SybaseDriver.Handles

namespace Sybase

open Program Connection Leases

variable {σ : Type} {cfg : Config σ} {world after : World σ} {roots : List CommandId}
  {id : CommandId} {cmd : Command} {statement : StatementId}

/-! ### Owners -/

/-- The command a statement holds. -/
def World.context (world : World σ) (statement : StatementId) : Option CommandId :=
  (world.statements statement).bind fun wrap => wrap.m.context

/-- A command is there if and only if it is one of the roots, which running functions own, or
belongs to a statement; and it has one owner. -/
structure AllOwned (roots : List CommandId) (world : World σ) : Prop where
  numbered : Numbered world
  live : ∀ id, (world.commands id).isSome ↔ id ∈ roots ∨ ∃ statement,
    world.context statement = some id
  alone : ∀ first second id,
    world.context first = some id → world.context second = some id → first = second
  apart : ∀ statement id, world.context statement = some id → id ∉ roots
  nodup : roots.Nodup

/-- What is owned stays owned, whatever else is owned. -/
def Balanced (world after : World σ) : Prop := ∀ roots, AllOwned roots world → AllOwned roots after

instance : Std.Refl (Balanced (σ := σ)) := ⟨fun _ _ owned => owned⟩

instance : IsTrans (World σ) Balanced :=
  ⟨fun _ _ _ first second roots owned => second roots (first roots owned)⟩

namespace AllOwned

/-- The commands that are there and their owners are as they were. -/
theorem of_eq (owned : AllOwned roots world)
    (commands : ∀ id, (after.commands id).isSome = (world.commands id).isSome)
    (context : after.context = world.context) (later : world.nextCommand ≤ after.nextCommand) :
    AllOwned roots after where
  numbered id cmd held := by
    have there : (world.commands id).isSome := by rw [← commands, held]; rfl
    obtain ⟨cmd', held'⟩ := Option.isSome_iff_exists.mp there
    exact Nat.lt_of_lt_of_le (owned.numbered id cmd' held') later
  live id := by rw [commands, context]; exact owned.live id
  alone := by rw [context]; exact owned.alone
  apart := by rw [context]; exact owned.apart
  nodup := owned.nodup

/-- A change of a command that is there. -/
theorem change (owned : AllOwned roots world) (change : Command → Command) :
    AllOwned roots { world with
    commands := Function.update world.commands id ((world.commands id).map change) } := by
  refine owned.of_eq (fun other => ?_) rfl (Nat.le_refl _)
  by_cases isId : other = id
  · subst isId
    simp
  · simp [isId]

theorem dropped (owned : AllOwned roots world) : AllOwned roots (world.dropped cfg id cmd) := by
  refine owned.of_eq (fun other => ?_) rfl (Nat.le_refl _)
  by_cases isId : other = id
  · subst isId
    simp [World.dropped]
  · simp [World.dropped, isId]

/-- A change of the private data of a statement that keeps its command. -/
theorem changeWrap (owned : AllOwned roots world) {change : ModuleWrap → ModuleWrap}
    (same : ∀ wrap, (change wrap).m.context = wrap.m.context) : AllOwned roots { world with
      statements := Function.update world.statements statement
        ((world.statements statement).map change) } := by
  refine owned.of_eq (fun _ => rfl) ?_ (Nat.le_refl _)
  funext other
  by_cases own : other = statement
  · subst own
    cases held : world.statements other with
    | none => simp [World.context, held]
    | some wrap => simp [World.context, held, same]
  · simp [World.context, own]

/-- The function that makes a command owns it. -/
theorem allocated (owned : AllOwned roots world) :
    AllOwned (world.nextCommand :: roots) (world.allocated cfg) := by
  have absent : ¬(world.commands world.nextCommand).isSome := fun there => by
    obtain ⟨cmd, held⟩ := Option.isSome_iff_exists.mp there
    exact Nat.lt_irrefl _ (owned.numbered _ cmd held)
  have unowned := mt (owned.live world.nextCommand).mpr absent
  refine ⟨owned.numbered.allocated, fun id => ?_, owned.alone, fun statement id holds => ?_,
    List.nodup_cons.mpr ⟨fun member => unowned (.inl member), owned.nodup⟩⟩
  · by_cases isNew : id = world.nextCommand
    · refine iff_of_true ?_ (.inl (isNew ▸ List.mem_cons_self))
      simp [World.allocated, isNew]
    · have same : (world.allocated cfg).commands id = world.commands id := by
        simp [World.allocated, isNew]
      rw [same, List.mem_cons, or_iff_right isNew]
      exact owned.live id
  · rw [List.mem_cons]
    rintro (rfl | member)
    · exact unowned (.inr ⟨statement, holds⟩)
    · exact owned.apart statement id holds member

/-- The function that owns a command removes it. -/
theorem removed (owned : AllOwned (id :: roots) world) : AllOwned roots (world.removed id) := by
  obtain ⟨other, nodup⟩ := List.nodup_cons.mp owned.nodup
  refine ⟨owned.numbered.removed id, fun id' => ?_, owned.alone, fun statement id' holds member =>
    owned.apart statement id' holds (List.mem_cons_of_mem _ member), nodup⟩
  by_cases isId : id' = id
  · subst isId
    refine iff_of_false (by simp [World.removed]) ?_
    rintro (member | ⟨statement, holds⟩)
    · exact other member
    · exact owned.apart statement id' holds List.mem_cons_self
  · have same : (world.removed id).commands id' = world.commands id' := by
      simp [World.removed, isId]
    have old := owned.live id'
    rwa [← same, List.mem_cons, or_iff_right isId] at old

/-- A statement takes a command over, and the function gets the one it held. -/
theorem swap {context : Option CommandId} (owned : AllOwned (context.toList ++ roots) world)
    (statement : StatementId) (commands : after.commands = world.commands)
    (later : after.nextCommand = world.nextCommand)
    (changed : after.context = Function.update world.context statement context) :
    AllOwned ((world.context statement).toList ++ roots) after := by
  have given : ∀ id, context = some id → id ∉ roots ∧ ∀ other, world.context other ≠ some id := by
    rintro id rfl
    refine ⟨fun member => ?_, fun other holds => owned.apart other id holds List.mem_cons_self⟩
    exact (List.nodup_cons.mp owned.nodup).1 member
  have own : after.context statement = context := by rw [changed, Function.update_self]
  have other : ∀ {index}, index ≠ statement → after.context index = world.context index :=
    fun different => by rw [changed, Function.update_of_ne different]
  refine ⟨fun id cmd held => ?_, fun id => ?_, fun first second id holds holds' => ?_,
    fun index id holds member => ?_, ?_⟩
  · exact later ▸ owned.numbered id cmd (commands ▸ held)
  · rw [commands, owned.live id, List.mem_append, List.mem_append, Option.mem_toList,
      Option.mem_toList]
    constructor
    · rintro ((isGiven | member) | ⟨index, holds⟩)
      · exact .inr ⟨statement, own.trans isGiven⟩
      · exact .inl (.inr member)
      · by_cases isStatement : index = statement
        · exact .inl (.inl (isStatement ▸ holds))
        · exact .inr ⟨index, (other isStatement).trans holds⟩
    · rintro ((held | member) | ⟨index, holds⟩)
      · exact .inr ⟨statement, held⟩
      · exact .inl (.inr member)
      · by_cases isStatement : index = statement
        · exact .inl (.inl (own.symm.trans (isStatement ▸ holds)))
        · exact .inr ⟨index, (other isStatement).symm.trans holds⟩
  · by_cases isStatement : first = statement
    · by_cases isStatement' : second = statement
      · rw [isStatement, isStatement']
      · refine absurd ((other isStatement').symm.trans holds') ?_
        exact (given id (own.symm.trans (isStatement ▸ holds))).2 second
    · by_cases isStatement' : second = statement
      · refine absurd ((other isStatement).symm.trans holds) ?_
        exact (given id (own.symm.trans (isStatement' ▸ holds'))).2 first
      · exact owned.alone first second id ((other isStatement).symm.trans holds)
          ((other isStatement').symm.trans holds')
  · rw [List.mem_append, Option.mem_toList] at member
    by_cases isStatement : index = statement
    · have isGiven := given id (own.symm.trans (isStatement ▸ holds))
      rcases member with held | member
      · exact isGiven.2 statement held
      · exact isGiven.1 member
    · have before := (other isStatement).symm.trans holds
      rcases member with held | member
      · exact isStatement (owned.alone index statement id before held)
      · exact owned.apart index id before (List.mem_append_right _ member)
  · refine List.nodup_append.mpr ⟨Option.toList_nodup _, (List.nodup_append.mp owned.nodup).2.1, ?_⟩
    rintro id held id' member rfl
    exact owned.apart statement id (Option.mem_toList.mp held) (List.mem_append_right _ member)

end AllOwned

/-! ### Functions -/

namespace Balanced

theorem of_eq (commands : ∀ id, (after.commands id).isSome = (world.commands id).isSome)
    (context : after.context = world.context) (later : world.nextCommand ≤ after.nextCommand) :
    Balanced world after := fun _ owned => owned.of_eq commands context later

theorem baseStable : BaseStable (σ := σ) Balanced StopsAnyhow where
  raise _ _ _ := of_eq (fun _ => rfl) rfl (Nat.le_refl _)
  discard _ := of_eq (fun _ => rfl) rfl (Nat.le_refl _)
  halts _ _ _ := trivial

theorem of_call (cfg : Config σ) (site : Site) (call : CtCall) :
    Balanced world (world.answered cfg.lib site call) := of_eq (fun _ => rfl) rfl (Nat.le_refl _)

theorem readingStable (cfg : Config σ) (id : CommandId) :
    ReadingStable cfg id Balanced StopsAnyhow where
  toBaseStable := baseStable
  call site call _ _ _ _ := of_call cfg site call
  value _ _ _ := of_eq (fun _ => rfl) rfl (Nat.le_refl _)
  modify _ _ _ _ owned := owned.change _

theorem bindStable (cfg : Config σ) (id : CommandId) : BindStable cfg id Balanced StopsAnyhow where
  toBaseStable := baseStable
  bind _ call _ := of_call cfg .other call
  query _ _ _ owned := owned.change _

theorem closeStable (cfg : Config σ) : CloseStable cfg Balanced StopsAnyhow where
  toBaseStable := baseStable
  close _ site call _ _ := of_call cfg site call
  disconnect _ _ _ owned := owned.change _
  noted _ _ := of_eq (fun _ => rfl) rfl (Nat.le_refl _)
  invalid _ _ _ owned := owned.changeWrap fun _ => rfl
  unregister _ := of_eq (fun _ => rfl) rfl (Nat.le_refl _)
  reset _ _ _ := of_eq (fun _ => rfl) rfl (Nat.le_refl _)

theorem statementStable (cfg : Config σ) : StatementStable cfg Balanced StopsAnyhow where
  toBaseStable := baseStable
  reading := readingStable cfg
  wraps _ _ _ same _ owned := owned.changeWrap fun wrap => (same wrap).2

theorem directStable (cfg : Config σ) : DirectStable cfg Balanced StopsAnyhow where
  toBaseStable := baseStable
  call _ site call _ _ := of_call cfg site call
  alloc _ := of_eq (fun _ => rfl) rfl (Nat.le_refl _)

theorem reopenStable (cfg : Config σ) : ReopenStable cfg Balanced StopsAnyhow where
  toBaseStable := baseStable
  call _ call _ := of_call cfg .other call
  connection _ _ _ _ _ := of_eq (fun _ => rfl) rfl (Nat.le_refl _)
  closes := (closeStable cfg).keeps_closeConnection
  lost _ _ := of_eq (fun _ => rfl) rfl (Nat.le_refl _)
  reconnected _ _ := of_eq (fun _ => rfl) rfl (Nat.le_refl _)
  aborts _ := of_eq (fun _ => rfl) rfl (Nat.le_refl _)
  nested keeps world := by
    have deeper : Balanced world { world with depth := world.depth + 1 } :=
      of_eq (fun _ => rfl) rfl (Nat.le_refl _)
    have shallower : ∀ after : World σ, Balanced after { after with depth := world.depth } :=
      fun _ => of_eq (fun _ => rfl) rfl (Nat.le_refl _)
    refine (wp_nested _).mpr (wp_mono (keeps { world with depth := world.depth + 1 }) ?_ ?_ ?_)
    · exact fun _ after balanced =>
        trans_of Balanced deeper (trans_of Balanced balanced (shallower after))
    · exact fun _ after balanced =>
        trans_of Balanced deeper (trans_of Balanced balanced (shallower after))
    · exact fun _ _ _ => ⟨world, refl_of Balanced world, trivial⟩

end Balanced

/-- A function that gets a command from another one destroys it. -/
theorem AllOwned.wp_destroy (owned : AllOwned (id :: roots) world) :
    wp (Command.destroy cfg id) (fun _ after => AllOwned roots after) noThrow
      (fun _ _ => True) world := by
  obtain ⟨cmd, held⟩ := Option.isSome_iff_exists.mp ((owned.live id).mpr (.inl List.mem_cons_self))
  rw [Sybase.wp_destroy held]
  have canceled : AllOwned (id :: roots) (world.canceled cfg cmd) := by
    rw [World.canceled]
    split
    · exact Balanced.of_call cfg .clear _ _ owned
    · exact owned
  split
  · split
    · trivial
    · exact canceled.dropped.removed
  · exact owned.removed

theorem AllOwned.wp_destroyOption {cmd : Option CommandId}
    (owned : AllOwned (cmd.toList ++ roots) world) :
    wp (Command.destroyOption cfg cmd) (fun _ after => AllOwned roots after) noThrow
      (fun _ _ => True)
      world := by
  cases cmd with
  | none => exact owned
  | some id => exact owned.wp_destroy

/-- A program keeps the balance if it does so whatever else is owned. -/
theorem Balanced.of_owned {α : Type} {program : Driver σ α}
    (keeps : ∀ roots world, AllOwned roots world → wp program (fun _ after => AllOwned roots after)
      (fun _ after => AllOwned roots after) (fun _ _ => True) world) :
    Keeps Balanced StopsAnyhow program := by
  intro world
  rw [wp_iff_forall]
  refine ⟨fun _ _ run roots owned => ?_, fun _ _ run roots owned => ?_, fun _ _ _ => ?_⟩
  · exact (wp_iff_forall.mp (keeps roots world owned)).1 _ _ run
  · exact (wp_iff_forall.mp (keeps roots world owned)).2.1 _ _ run
  · exact ⟨world, refl_of Balanced world, trivial⟩

/-- What a program does that keeps the balance. -/
theorem AllOwned.wp_keeps {α : Type} {program : Driver σ α}
    (keeps : Keeps Balanced StopsAnyhow program)
    (owned : AllOwned roots world) : wp program (fun _ after => AllOwned roots after)
      (fun _ after => AllOwned roots after) (fun _ _ => True) world :=
  wp_mono (keeps world) (fun _ _ balanced => balanced roots owned)
    (fun _ _ balanced => balanced roots owned) fun _ _ _ => trivial

section Reconnecting

variable {reconnect : Reconnect σ}
  (reconnects : ∀ cmd tryReconnect, Keeps Balanced StopsAnyhow (reconnect cmd tryReconnect))
include reconnects

theorem Balanced.keeps_sendOrReconnect (id : CommandId) :
    Keeps Balanced StopsAnyhow (sendOrReconnect cfg reconnect id) := by
  have base : BaseStable (σ := σ) Balanced StopsAnyhow := Balanced.baseStable
  refine Sybase.keeps_sendOrReconnect (base.keeps_getCommand_then fun _ => ?_) ?_ reconnects
  · exact keeps_bind (fun _ => Balanced.of_call cfg .other _) fun _ =>
      keeps_when _ fun _ => base.keeps_doException _ _
  · exact keeps_bind (fun _ => Balanced.of_call cfg .other _) fun _ => keeps_pure _

/-- Setting up a command makes one that the caller owns, or leaves none. -/
theorem AllOwned.wp_setupCommandOnce (cmdText : Text) (args : Option (List QoreValue)) (raw : Bool)
    (owned : AllOwned roots world) :
    wp (setupCommandOnce cfg reconnect cmdText args raw)
      (fun result after =>
        result.elim (fun _ => AllOwned roots after) fun cmd => AllOwned (cmd.toList ++ roots) after)
      (fun _ after => AllOwned roots after) (fun _ _ => True) world := by
  rw [setupCommandOnce, wp_bind]
  refine wp_mono_ok (owned.wp_keeps (Balanced.baseStable.keeps_initQuery cmdText args raw)) ?_
  intro query after owned
  split
  · exact owned
  · rename_i query
    rw [wp_bind, wp_create, wp_bind, wp_onThrow]
    have made : AllOwned (after.nextCommand :: roots) (after.allocated cfg) := owned.allocated
    refine wp_mono
      (made.wp_keeps (keeps_bind ((Balanced.bindStable cfg _).keeps_bindQuery query args)
      fun _ => Balanced.keeps_sendOrReconnect reconnects _)) ?_ ?_ fun _ _ _ => trivial
    · intro sent last owned
      split
      · exact owned
      · rw [wp_bind]
        exact wp_mono owned.wp_destroy (fun _ _ owned => owned) (fun _ _ absent => absent.elim)
          fun _ _ _ => trivial
    · intro error last owned
      exact wp_mono owned.wp_destroy (fun _ _ owned => owned) (fun _ _ absent => absent.elim)
        fun _ _ _ => trivial

theorem AllOwned.wp_setupCommand (cmdText : Text) (args : Option (List QoreValue)) (raw : Bool)
    (owned : AllOwned roots world) :
    wp (setupCommand cfg reconnect cmdText args raw)
      (fun cmd after => AllOwned (cmd.toList ++ roots) after) (fun _ after => AllOwned roots after)
      (fun _ _ => True) world := by
  refine wp_iterate (fun _ state => AllOwned roots state) (fun _ _ _ => trivial) ?_ _ _ _ owned
  intro _ state owned
  refine wp_mono_ok (owned.wp_setupCommandOnce reconnects cmdText args raw) ?_
  rintro (_ | cmd) after owned
  · exact owned
  · exact owned

/-- A query leaves no command behind. -/
theorem Balanced.keeps_execReadOutput (cmdText : Text) (args : Option (List QoreValue))
    (needList doBinding cols singleRow : Bool) : Keeps Balanced StopsAnyhow
      (execReadOutput cfg reconnect cmdText args needList doBinding cols singleRow) := by
  refine keeps_bind (Balanced.closeStable cfg).keeps_invalidateStatement fun _ =>
    Balanced.of_owned fun roots world owned => ?_
  rw [wp_bind]
  refine wp_mono_ok (owned.wp_setupCommand reconnects cmdText args !doBinding)
    fun cmd after owned => ?_
  have reads := (Balanced.statementStable cfg).keeps_readOutputOption
    ((Balanced.statementStable cfg).keeps_readNextResult reconnects) cmd needList cols singleRow
  rw [wp_ensure]
  refine wp_mono (owned.wp_keeps (keeps_bind reads fun result =>
    keeps_bind keeps_isException fun raised => ?_)) ?_ ?_ fun _ _ _ => trivial
  · split
    · exact keeps_pure _
    · exact keeps_pure _
  · exact fun _ _ owned => wp_mono owned.wp_destroyOption (fun _ _ owned => owned)
      (fun _ _ absent => absent.elim) fun _ _ _ => trivial
  · exact fun _ _ owned => wp_mono owned.wp_destroyOption (fun _ _ owned => owned)
      (fun _ _ absent => absent.elim) fun _ _ _ => trivial

omit reconnects in
/-- A statement takes the command over, and the one it held is destroyed. -/
theorem AllOwned.wp_resetContext (statement : StatementId) {context : Option CommandId}
    (owned : AllOwned (context.toList ++ roots) world) :
    wp (Statement.resetContext cfg statement context) (fun _ after => AllOwned roots after) noThrow
      (fun _ _ => True) world := by
  rw [Statement.resetContext, wp_bind, wp_getModuleWrap]
  refine ⟨fun wrap held => ?_, fun _ => trivial⟩
  rw [wp_bind, modifyStatement, wp_modifyModuleWrap]
  have holds : world.context statement = wrap.m.context := by rw [World.context, held]; rfl
  have changed : World.context { world with
      statements := Function.update world.statements statement
        ((world.statements statement).map fun wrap =>
          { wrap with m := { wrap.m with context := context } }) } =
      Function.update world.context statement context := by
    funext other
    by_cases own : other = statement
    · subst own
      simp [World.context, held]
    · simp [World.context, own]
  rw [← holds]
  refine AllOwned.wp_destroyOption ?_
  exact owned.swap statement rfl rfl changed

/-- An execution leaves the statement the command it made, if it made one. -/
theorem Balanced.keeps_exec (statement : StatementId) (query : Option Text)
    (args : Option (List QoreValue)) (raw : Bool) :
    Keeps Balanced StopsAnyhow (Statement.exec cfg reconnect statement query args raw) := by
  have base : BaseStable (σ := σ) Balanced StopsAnyhow := Balanced.baseStable
  have stable := Balanced.statementStable cfg
  refine keeps_bind (base.keeps_checkValid statement) fun invalid => ?_
  split
  · exact keeps_pure _
  · refine keeps_bind (stable.keeps_cancelContext statement) fun _ => ?_
    refine keeps_bind base.keeps_checkOpen fun _ => ?_
    split
    · exact base.keeps_undefined
    · refine Balanced.of_owned fun roots world owned => ?_
      rw [wp_bind]
      refine wp_mono_ok (owned.wp_setupCommand reconnects _ args raw) fun cmd after owned => ?_
      rw [wp_bind]
      refine wp_mono (owned.wp_resetContext statement) (fun _ reset owned => ?_)
        (fun _ _ absent => absent.elim) fun _ _ _ => trivial
      refine owned.wp_keeps (keeps_bind keeps_isException fun raised => ?_)
      split
      · exact keeps_pure _
      · refine keeps_bind (stable.keeps_readNextResultOf
          (stable.keeps_readNextResult reconnects) cmd)
          fun _ => keeps_bind keeps_isException fun raised => ?_
        split
        · exact keeps_pure _
        · exact keeps_pure _

end Reconnecting

theorem Balanced.keeps_closeAndReconnect (cfg : Config σ) (bound : Nat) (cmd : CommandId)
    (tryReconnect : Bool) : Keeps Balanced StopsAnyhow
    (closeAndReconnect cfg bound cmd tryReconnect) :=
  (Balanced.reopenStable cfg).keeps_closeAndReconnect
    (fun tryReconnect reconnects => (Balanced.reopenStable cfg).keeps_reopenConnection
      (fun _ => Balanced.of_eq (fun _ => rfl) rfl (Nat.le_refl _))
      (fun query args singleRow => Balanced.keeps_execReadOutput reconnects query
        args true true false singleRow) tryReconnect) bound cmd tryReconnect

theorem Balanced.keeps_topReconnect (cfg : Config σ) (cmd : CommandId) (tryReconnect : Bool) :
    Keeps Balanced StopsAnyhow (topReconnect cfg cmd tryReconnect) :=
  Balanced.keeps_closeAndReconnect cfg cfg.fuel cmd tryReconnect

/-! ### Operations -/

theorem Balanced.keeps_moduleWrap (cfg : Config σ) (statement : StatementId) :
    Keeps Balanced StopsAnyhow (DBModuleWrap.moduleWrap cfg statement) := by
  refine Balanced.baseStable.keeps_moduleWrap (fun world absent => ?_)
    (keeps_registerStatement (Balanced.closeStable cfg) statement fun _ =>
      Balanced.of_eq (fun _ => rfl) rfl (Nat.le_refl _))
  refine Balanced.of_eq (fun _ => rfl) ?_ (Nat.le_refl _)
  funext other
  by_cases own : other = statement
  · subst own
    simp [World.context, absent, DBModuleWrap.create, Statement.create]
  · simp [World.context, own]

/-- A statement without private data holds no command, and the function gets the one it held. -/
theorem AllOwned.unwrapped (owned : AllOwned roots world) (statement : StatementId) :
    AllOwned ((world.context statement).toList ++ roots) { world with
      statements := Function.update world.statements statement none } := by
  have given : AllOwned ((none : Option CommandId).toList ++ roots) world := owned
  refine given.swap statement rfl rfl ?_
  funext other
  by_cases own : other = statement
  · subst own
    simp [World.context]
  · simp [World.context, own]

/-- Closing a statement destroys its command. -/
theorem Balanced.keeps_close (cfg : Config σ) (statement : StatementId) :
    Keeps Balanced StopsAnyhow (DBModuleWrap.close cfg statement) := by
  refine Balanced.of_owned fun roots world owned => ?_
  rw [DBModuleWrap.close, wp_bind, wp_getModuleWrap]
  refine ⟨fun wrap held => ?_, fun _ => trivial⟩
  have removes : ∀ state : World σ, state.statements = world.statements → AllOwned roots state →
      wp (do
        modify fun world => { world with
          statements := Function.update world.statements statement none }
        Command.destroyOption cfg wrap.m.context
        pure (0 : Int)) (fun _ after => AllOwned roots after) (fun _ after => AllOwned roots after)
        (fun _ _ => True) state := by
    intro state same owned
    have holds : state.context statement = wrap.m.context := by
      rw [World.context, same, held]
      rfl
    rw [wp_bind, wp_modify, wp_bind, ← holds]
    exact wp_mono (owned.unwrapped statement).wp_destroyOption (fun _ _ owned => owned)
      (fun _ _ absent => absent.elim) fun _ _ _ => trivial
  rw [wp_bind, wp_when]
  refine ⟨fun _ => ?_, fun _ => removes world rfl owned⟩
  rw [wp_bind, Statement.checkOpen, wp_bind, wp_get]
  split
  · rw [wp_pure, deregisterStatement, wp_bind, wp_get, wp_bind, wp_assert]
    refine ⟨fun _ => trivial, fun _ => ?_⟩
    rw [wp_modifyConnection]
    exact removes _ rfl (owned.of_eq (fun _ => rfl) rfl (Nat.le_refl _))
  · trivial

theorem Balanced.partsStable (cfg : Config σ) : PartsStable cfg Balanced StopsAnyhow where
  toStatementStable := Balanced.statementStable cfg
  requests := Balanced.keeps_execReadOutput (Balanced.keeps_topReconnect cfg)
  commits := (Balanced.directStable cfg).keeps_commit
  rollbacks := (Balanced.directStable cfg).keeps_rollback
  nexts := (Balanced.statementStable cfg).keeps_next
    ((Balanced.statementStable cfg).keeps_readNextResult (Balanced.keeps_topReconnect cfg))
  registers := Balanced.keeps_moduleWrap cfg
  closes := Balanced.keeps_close cfg
  executes := Balanced.keeps_exec (Balanced.keeps_topReconnect cfg)

theorem Balanced.openStable (cfg : Config σ) : OpenStable cfg Balanced StopsAnyhow where
  toBaseStable := Balanced.baseStable
  inits := (Balanced.reopenStable cfg).toSessionStable.keeps_init
    ((Balanced.reopenStable cfg).toSessionStable.keeps_setEncoding
      (fun _ => Balanced.of_eq (fun _ => rfl) rfl (Nat.le_refl _)) fun query args singleRow =>
        Balanced.keeps_execReadOutput (Balanced.keeps_topReconnect cfg) query args true true false
          singleRow)
  destroys := Balanced.baseStable.keeps_destroyConnection
    (Balanced.closeStable cfg).keeps_invalidateStatement
      (fun _ _ _ _ => Balanced.of_call cfg .other _)
    fun _ => trivial
  connect _ := Balanced.of_eq (fun _ => rfl) rfl (Nat.le_refl _)
  disconnect _ := Balanced.of_eq (fun _ => rfl) rfl (Nat.le_refl _)
  setOpen _ _ := Balanced.of_eq (fun _ => rfl) rfl (Nat.le_refl _)

/-- In every state that is reached, the commands that are there are those of the statements. -/
theorem AllOwned.of_reachable {allowed : World σ → Call → Prop}
    (reached : Reachable cfg allowed world) :
    AllOwned [] world := by
  have keeps : ∀ op : Op, Keeps (Preserves (AllOwned [])) StopsAnyhow (op.run cfg) :=
    fun op world =>
    wp_mono ((Balanced.partsStable cfg).keeps_op (Balanced.openStable cfg) op world)
      (fun _ _ balanced => balanced []) (fun _ _ balanced => balanced [])
      fun _ _ _ => ⟨world, refl_of (Preserves (AllOwned [])) world, trivial⟩
  refine reached.kept keeps (fun world start => ?_) fun _ _ owned =>
    owned.of_eq (fun _ => rfl) rfl (Nat.le_refl _)
  have context : ∀ statement, world.context statement = none := fun statement => by
    simp [World.context, start.statements]
  refine ⟨fun id cmd held => ?_, fun id => ?_, fun first _ _ holds => ?_,
    fun _ _ _ => List.not_mem_nil, List.nodup_nil⟩
  · simp [start.commands] at held
  · simp [start.commands, context]
  · exact absurd ((context first).symm.trans holds) (by simp)

/-! ### Outstanding handles -/

/-- The handle that the command of a statement holds. -/
def World.handleOf (world : World σ) (statement : StatementId) : Option Handle :=
  (world.context statement).bind fun id => (world.commands id).bind Command.mCmd

/-- In every state that is reached, the handles that are outstanding are those that the commands of
the statements hold, and each belongs to one statement. -/
theorem outstanding_iff_handleOf {allowed : World σ → Call → Prop}
    (reached : Reachable cfg allowed world) (handle : Handle) :
    handle ∈ outstanding world.touches ↔ ∃! statement, world.handleOf statement = some handle := by
  have owned := AllOwned.of_reachable reached
  have assigned := (Leased.of_reachable reached).assigned
  have holds : ∀ {statement}, world.handleOf statement = some handle →
      ∃ id, world.context statement = some id ∧ world.holder none (some id) = some handle :=
    fun handles => Option.bind_eq_some_iff.mp handles
  rw [assigned.held handle]
  constructor
  · rintro ⟨_ | id, holder⟩
    · cases holder
    · obtain ⟨cmd, held, -⟩ := Option.bind_eq_some_iff.mp holder
      obtain ⟨statement, context⟩ := ((owned.live id).mp (held ▸ rfl)).resolve_left List.not_mem_nil
      refine ⟨statement, Option.bind_eq_some_iff.mpr ⟨id, context, holder⟩, fun other handles => ?_⟩
      obtain ⟨id', context', holder'⟩ := holds handles
      cases assigned.alone _ _ handle holder holder'
      exact owned.alone other statement id context' context
  · rintro ⟨statement, handles, -⟩
    obtain ⟨id, -, holder⟩ := holds handles
    exact ⟨some id, holder⟩

/-- In every state that is reached in which all statements are closed, no command object is left,
and every handle that was allocated was dropped once. -/
theorem dropped_of_closed {allowed : World σ → Call → Prop} (reached : Reachable cfg allowed world)
    (closed : ∀ statement, world.statements statement = none) :
    (∀ id, world.commands id = none) ∧ ∀ handle,
      world.touches.count (.release handle) = world.touches.count (.acquire handle) ∧
        world.touches.count (.release handle) ≤ 1 := by
  have disciplined := (Leased.of_reachable reached).assigned.disciplined
  have context : ∀ statement, world.context statement = none := fun statement => by
    rw [World.context, closed statement]
    rfl
  have settled : outstanding world.touches = [] := by
    refine List.eq_nil_iff_forall_not_mem.mpr fun handle out => ?_
    obtain ⟨statement, handles, -⟩ := (outstanding_iff_handleOf reached handle).mp out
    rw [World.handleOf, context statement] at handles
    cases handles
  refine ⟨fun id => ?_, fun handle =>
    ⟨disciplined.count_release settled handle, disciplined.count_release_le_one handle⟩⟩
  by_contra there
  have live := ((AllOwned.of_reachable reached).live id).mp (Option.isSome_iff_ne_none.mpr there)
  obtain ⟨statement, holds⟩ := live.resolve_left List.not_mem_nil
  exact absurd ((context statement).symm.trans holds) (by simp)

/-! ### Samples -/

/-- A driver whose ct-lib answers as a list says. -/
abbrev ownerConfig : Config (List Reply) := Config.sample (CtLib.scripted false) true 9

/-- A call of a method of the sample statement. -/
def ownerCall (op : StatementOp) : Call := ⟨[], .statement 0 op⟩

/-- A Datasource on which a statement was prepared. -/
def ownerPrepared : World (List Reply) :=
  ((ownerCall (.prepare (text "select 1") none)).run ownerConfig
    (World.opened [{}, {}, {}, {}, {}, {}])).2

/-- The state after the statement is executed. -/
def ownerExecuted : World (List Reply) := ((ownerCall .exec).run ownerConfig ownerPrepared).2

/-- The state after the statement is closed. -/
def ownerClosed : World (List Reply) := ((ownerCall .close).run ownerConfig ownerExecuted).2

theorem ownerExecuted_reachable : Reachable ownerConfig (fun _ _ => True) ownerExecuted := by
  have prepared : (ownerCall (.prepare (text "select 1") none)).run ownerConfig
      (World.opened [{}, {}, {}, {}, {}, {}]) = (.ok (), ownerPrepared) := rfl
  have executed : (ownerCall .exec).run ownerConfig ownerPrepared = (.ok (), ownerExecuted) := rfl
  exact .call (.call (.start ⟨rfl, rfl, rfl, rfl⟩) trivial (.inl prepared)) trivial (.inl executed)

theorem ownerClosed_reachable : Reachable ownerConfig (fun _ _ => True) ownerClosed := by
  have closed : (ownerCall .close).run ownerConfig ownerExecuted = (.ok (), ownerClosed) := rfl
  exact .call ownerExecuted_reachable trivial (.inl closed)

theorem outstanding_iff_handleOf_executed :
    ∃! statement, ownerExecuted.handleOf statement = some 0 :=
  (outstanding_iff_handleOf ownerExecuted_reachable 0).mp (by decide +kernel)

theorem dropped_of_closed_sample : (∀ id, ownerClosed.commands id = none) ∧ ∀ handle,
    ownerClosed.touches.count (.release handle) = ownerClosed.touches.count (.acquire handle) ∧
      ownerClosed.touches.count (.release handle) ≤ 1 := by
  refine dropped_of_closed ownerClosed_reachable fun statement => ?_
  cases statement with
  | zero => rfl
  | succ statement => rfl

end Sybase
