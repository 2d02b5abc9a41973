/-
This file proves what holds of the statement that a connection has registered. The
registry of a state is which statement is registered, and which statements have
private data and are valid. A request keeps the registry or invalidates what is
registered; a method that creates private data registers them, unless the statement
that was registered cannot be invalidated because it holds no command. In that case
the new statement is valid without being registered.
-/

import SybaseDriver.Boundary
import SybaseDriver.CommandLogic

namespace Sybase

open Program Connection

variable {σ : Type} {cfg : Config σ} {world middle after : World σ} {statement : StatementId}

/-! ### Registries -/

/-- Which statement is registered, and of each statement with private data whether it is valid. -/
structure Registry where
  registered : Option StatementId
  validity : StatementId → Option Bool

namespace Registry

/-- A statement has private data and is valid if and only if it is registered. -/
def Consistent (registry : Registry) : Prop :=
  ∀ statement, registry.validity statement = some true ↔ registry.registered = some statement

/-- The statement is invalid. -/
def expire (registry : Registry) (statement : StatementId) : Registry where
  registered := registry.registered
  validity := Function.update registry.validity statement
    ((registry.validity statement).map fun _ => false)

/-- The registered statement is invalid and no longer registered. -/
def invalidate (registry : Registry) : Registry :=
  match registry.registered with
  | none => registry
  | some statement => ⟨none, (registry.expire statement).validity⟩

/-- New private data are valid. -/
def intrude (registry : Registry) (statement : StatementId) : Registry where
  registered := registry.registered
  validity := Function.update registry.validity statement (some true)

/-- New private data take the place of what was registered. -/
def enter (registry : Registry) (statement : StatementId) : Registry where
  registered := some statement
  validity := Function.update registry.invalidate.validity statement (some true)

/-- The private data are gone, and a valid statement is no longer registered. -/
def remove (registry : Registry) (statement : StatementId) : Registry where
  registered := if registry.validity statement = some true then none else registry.registered
  validity := Function.update registry.validity statement none

variable {registry : Registry}

theorem invalidate_registered (registry : Registry) : registry.invalidate.registered = none := by
  unfold invalidate
  split
  · assumption
  · rfl

theorem invalidate_invalidate (registry : Registry) :
    registry.invalidate.invalidate = registry.invalidate := by
  rw [invalidate.eq_def registry.invalidate, invalidate_registered]

/-- Beside no registered statement, new private data are registered. -/
theorem enter_of_none (none : registry.registered = none) (statement : StatementId) :
    registry.enter statement = ⟨some statement, (registry.intrude statement).validity⟩ := by
  unfold enter invalidate
  rw [none]
  rfl

/-- The statement that is registered is invalidated after the new private data are created. -/
theorem enter_of_some {registered : StatementId} (same : registry.registered = some registered)
    (different : registered ≠ statement) : registry.enter statement =
      ⟨some statement, ((registry.intrude statement).expire registered).validity⟩ := by
  unfold enter invalidate expire intrude
  rw [same]
  show (⟨some statement, Function.update (Function.update registry.validity registered _)
    statement _⟩ :
    Registry) = ⟨some statement, Function.update (Function.update registry.validity statement _)
      registered ((Function.update registry.validity statement _ registered).map _)⟩
  rw [Function.update_of_ne different, Function.update_comm different]

namespace Consistent

/-- No statement is valid once the registered one is invalidated. -/
theorem invalid (consistent : registry.Consistent) (statement : StatementId) :
    registry.invalidate.validity statement ≠ some true := by
  unfold Registry.invalidate
  cases registered : registry.registered with
  | none => exact fun valid => absurd ((consistent statement).mp valid) (by simp [registered])
  | some other =>
    show Function.update registry.validity other _ statement ≠ some true
    by_cases same : statement = other
    · subst same
      rw [Function.update_self]
      cases registry.validity statement <;> simp
    · rw [Function.update_of_ne same]
      intro valid
      have only := (consistent statement).mp valid
      exact same (Option.some.inj (only.symm.trans registered))

theorem invalidate (consistent : registry.Consistent) : registry.invalidate.Consistent :=
  fun statement =>
  iff_of_false (consistent.invalid statement) (by simp [invalidate_registered])

theorem enter (consistent : registry.Consistent) (statement : StatementId) :
    (registry.enter statement).Consistent := by
  intro other
  show Function.update registry.invalidate.validity statement (some true) other = some true ↔
    some statement = some other
  by_cases same : other = statement
  · subst same
    simp
  · rw [Function.update_of_ne same]
    exact iff_of_false (consistent.invalid other) fun registered =>
      same (Option.some.inj registered).symm

theorem remove (consistent : registry.Consistent) (statement : StatementId) :
    (registry.remove statement).Consistent := by
  intro other
  show Function.update registry.validity statement none other = some true ↔
    (if registry.validity statement = some true then none else registry.registered) = some other
  by_cases same : other = statement
  · subst same
    rw [Function.update_self]
    refine iff_of_false (by simp) ?_
    split
    · simp
    · rename_i invalid
      exact fun registered => invalid ((consistent other).mpr registered)
  · rw [Function.update_of_ne same, consistent other]
    split
    · rename_i valid
      refine iff_of_false (fun registered => same ?_) (by simp)
      exact Option.some.inj (registered.symm.trans ((consistent statement).mp valid))
    · rfl

/-- New private data that are not registered are valid all the same. -/
theorem not_intrude (consistent : registry.Consistent)
    (absent : registry.validity statement = none) :
    ¬(registry.intrude statement).Consistent := by
  intro intruded
  have valid : (registry.intrude statement).validity statement = some true :=
    Function.update_self _ _ _
  have registered : registry.registered = some statement := (intruded statement).mp valid
  exact absurd ((consistent statement).mpr registered) (by simp [absent])

end Consistent

end Registry

/-! ### The registry of a state -/

/-- The registry of a state. -/
def World.registry (world : World σ) : Registry where
  registered := world.connection.stmt
  validity statement := (world.statements statement).map (·.m.valid)

/-- Private data that are created, changed or removed. -/
theorem registry_update (world : World σ) (statement : StatementId) (wrap : Option ModuleWrap) :
    World.registry { world with statements := Function.update world.statements statement wrap } =
      ⟨world.registry.registered,
        Function.update world.registry.validity statement (wrap.map (·.m.valid))⟩ := by
  unfold World.registry
  congr 1
  exact Function.comp_update (Option.map (·.m.valid)) world.statements statement wrap

/-- A change of private data that does not make them valid or invalid. -/
theorem registry_wraps {change : ModuleWrap → ModuleWrap}
    (kept : ∀ wrap, (change wrap).m.valid = wrap.m.valid) (world : World σ)
    (statement : StatementId) :
    World.registry { world with
      statements := Function.update world.statements statement
        ((world.statements statement).map change) } = world.registry := by
  have same : ((world.statements statement).map change).map (·.m.valid) =
      world.registry.validity statement := by
    rw [Option.map_map]
    exact congrArg (fun read => (world.statements statement).map read) (funext kept)
  rw [registry_update, same, Function.update_eq_self]

/-- A statement that is made invalid. -/
theorem registry_expire (world : World σ) (statement : StatementId) :
    World.registry { world with
      statements := Function.update world.statements statement
        ((world.statements statement).map fun wrap =>
          { wrap with m := { wrap.m with valid := false } }) } =
      world.registry.expire statement := by
  rw [registry_update, Option.map_map]
  unfold Registry.expire World.registry
  rw [Option.map_map]
  rfl

theorem registry_validity_eq_none : world.registry.validity statement = none ↔
    world.statements statement = none := Option.map_eq_none_iff

/-! ### Requests -/

/-- The registry of the state, or that with the registered statement invalidated. -/
def World.HasRegistry (world : World σ) (registry : Registry) : Prop :=
  world.registry = registry ∨ world.registry = registry.invalidate

theorem World.HasRegistry.consistent {registry : Registry} (has : world.HasRegistry registry)
    (consistent : registry.Consistent) : world.registry.Consistent := by
  rcases has with same | invalid
  · rw [same]
    exact consistent
  · rw [invalid]
    exact consistent.invalidate

/-- A step that keeps the registry. -/
def SameRegistry (world after : World σ) : Prop := after.registry = world.registry

/-- A step that keeps the registry, or invalidates the registered statement. -/
def Settles (world after : World σ) : Prop := after.HasRegistry world.registry

instance : Std.Refl (SameRegistry (σ := σ)) := ⟨fun _ => rfl⟩

instance : IsTrans (World σ) SameRegistry := ⟨fun _ _ _ first second => Eq.trans second first⟩

namespace Settles

theorem from_registry {registry : Registry} (settles : Settles middle after)
    (has : middle.HasRegistry registry) : after.HasRegistry registry := by
  rcases has with same | invalid
  · rw [← same]
    exact settles
  · refine .inr (settles.elim (·.trans invalid) fun again => again.trans ?_)
    rw [invalid, Registry.invalidate_invalidate]

theorem trans (first : Settles world middle) (second : Settles middle after) :
    Settles world after := second.from_registry first

instance : Std.Refl (Settles (σ := σ)) := ⟨fun _ => .inl rfl⟩

instance : IsTrans (World σ) Settles := ⟨fun _ _ _ => trans⟩

end Settles

theorem SameRegistry.baseStable : BaseStable (SameRegistry (σ := σ)) StopsAnyhow where
  raise _ _ _ := rfl
  discard _ := rfl
  halts _ _ _ := trivial

theorem SameRegistry.disconnectStable (cfg : Config σ) :
    DisconnectStable cfg SameRegistry StopsAnyhow where
  toBaseStable := baseStable
  close _ _ _ _ _ := rfl
  disconnect _ _ := rfl

/-- Whether a statement holds a command. -/
def World.Holds (world : World σ) (statement : StatementId) : Prop :=
  ∃ wrap cmd, world.statements statement = some wrap ∧ wrap.m.context = some cmd

/-- A statement is invalidated where it holds a command, and an error is thrown where it does
not. -/
theorem wp_invalidate_registry (statement : StatementId) :
    wp (invalidate cfg statement)
      (fun _ after => world.Holds statement ∧ after.registry = world.registry.expire statement)
      (fun _ after => ¬world.Holds statement ∧ after.registry = world.registry)
      (fun _ _ => True) world := by
  have stable := SameRegistry.disconnectStable cfg
  rw [invalidate, wp_bind, wp_modify, wp_bind, wp_getModuleWrap]
  refine ⟨fun wrap held => ?_, fun _ => trivial⟩
  rw [wp_bind, wp_assert]
  refine ⟨fun _ => trivial, fun _ => ?_⟩
  split
  · rename_i none
    refine ⟨?_, rfl⟩
    rintro ⟨wrap', cmd, held', context⟩
    obtain rfl := Option.some.inj (held.symm.trans held')
    exact absurd (none.symm.trans context) (by simp)
  · rename_i cmd context
    rw [wp_bind]
    refine wp_mono (wp_and (stable.keeps_cancelDisconnect cmd _)
      (neverThrows_cancelDisconnect cmd _))
      (fun _ canceled kept => ?_) (fun _ _ kept => kept.2.elim) fun _ _ _ => trivial
    refine ⟨⟨wrap, cmd, held, context⟩, (registry_expire canceled statement).trans ?_⟩
    exact congrArg (·.expire statement) kept.1

theorem registeredHolds_none (none : world.connection.stmt = none) : world.RegisteredHolds :=
  fun _ registered => absurd (none.symm.trans registered) (by simp)

theorem registeredHolds_some (registered : world.connection.stmt = some statement) :
    world.RegisteredHolds ↔ world.Holds statement := by
  refine ⟨fun holds => holds statement registered, fun holds other same => ?_⟩
  obtain rfl := Option.some.inj (registered.symm.trans same)
  exact holds

/-- The registered statement is invalidated where it holds a command. -/
theorem wp_invalidateStatement_registry :
    wp (invalidateStatement cfg)
      (fun _ after => world.RegisteredHolds ∧ after.registry = world.registry.invalidate)
      (fun _ after => ¬world.RegisteredHolds ∧ after.registry = world.registry)
      (fun _ _ => True) world := by
  rw [invalidateStatement, wp_bind, wp_get]
  cases registered : world.connection.stmt with
  | none =>
    refine ⟨registeredHolds_none registered, ?_⟩
    rw [Registry.invalidate.eq_def, show world.registry.registered = none from registered]
  | some statement =>
    rw [wp_bind]
    refine wp_mono (wp_invalidate_registry statement) (fun _ expired post => ?_)
      (fun _ _ post => ⟨(registeredHolds_some registered).not.mpr post.1, post.2⟩) fun _ _ _ =>
        trivial
    obtain ⟨holds, same⟩ := post
    rw [wp_modifyConnection]
    refine ⟨(registeredHolds_some registered).mpr holds, ?_⟩
    rw [Registry.invalidate.eq_def, show world.registry.registered = some statement from registered]
    exact congrArg (fun registry => (⟨none, registry.validity⟩ : Registry)) same

theorem keeps_invalidateStatement_settles :
    Keeps Settles StopsAnyhow (invalidateStatement cfg) := fun world =>
  wp_mono wp_invalidateStatement_registry (fun _ _ post => .inr post.2)
    (fun _ _ post => .inl post.2)
    fun _ _ _ => ⟨world, refl_of Settles world, trivial⟩

/-- The methods of statements and Datasources settle the registry. -/
theorem Settles.callStable (cfg : Config σ) : CallStable cfg Settles StopsAnyhow where
  raise _ _ _ := .inl rfl
  discard _ := .inl rfl
  halts _ _ _ := trivial
  call _ _ _ := .inl rfl
  connection _ _ _ same _ := .inl (congrArg (fun stmt => (⟨stmt, _⟩ : Registry)) same)
  reading _ :=
    { raise := fun _ _ _ => .inl rfl
      discard := fun _ => .inl rfl
      halts := fun _ _ _ => trivial
      call := fun _ _ _ _ _ _ => .inl rfl
      value := fun _ _ _ => .inl rfl
      modify := fun _ _ _ => .inl rfl }
  binding _ :=
    { raise := fun _ _ _ => .inl rfl
      discard := fun _ => .inl rfl
      halts := fun _ _ _ => trivial
      bind := fun _ _ _ => .inl rfl
      query := fun _ _ => .inl rfl }
  destroying _ :=
    { raise := fun _ _ _ => .inl rfl
      discard := fun _ => .inl rfl
      halts := fun _ _ _ => trivial
      clear := fun _ _ _ => .inl rfl
      terminated := fun _ _ _ => trivial
      drop := fun _ _ => .inl rfl
      handle := fun _ => .inl rfl
      remove := fun _ => .inl rfl }
  creates _ := wp_create.mpr (.inl rfl)
  holds world statement context := by
    refine .inl (registry_wraps ?_ world statement)
    exact fun _ => rfl
  asks _ _ _ := .inl rfl
  invalidates := keeps_invalidateStatement_settles
  closes cmd := by
    have base : DisconnectStable cfg (Settles (σ := σ)) StopsAnyhow :=
      { raise := fun _ _ _ => .inl rfl
        discard := fun _ => .inl rfl
        halts := fun _ _ _ => trivial
        close := fun _ _ _ _ _ => .inl rfl
        disconnect := fun _ _ => .inl rfl }
    exact base.keeps_closing keeps_invalidateStatement_settles
      (fun _ _ same => .inl (congrArg (fun stmt => (⟨stmt, _⟩ : Registry)) same)) cmd
  notes _ _ _ := .inl rfl
  aborts _ := .inl rfl
  nested keeps world := by
    refine (wp_nested _).mpr (wp_mono (keeps { world with depth := world.depth + 1 })
      (fun _ _ settles => settles) (fun _ _ settles => settles) fun _ _ _ => ?_)
    exact ⟨world, refl_of Settles world, trivial⟩
  wraps world statement _ kept := .inl (registry_wraps kept world statement)
  directs :=
    { raise := fun _ _ _ => .inl rfl
      discard := fun _ => .inl rfl
      halts := fun _ _ _ => trivial
      call := fun _ _ _ _ _ => .inl rfl
      alloc := fun _ => .inl rfl }
  clear _ := .inl rfl

/-! ### Private data -/

/-- The private data of a statement were there, or have been created and registered. -/
inductive Entered (statement : StatementId) (world after : World σ) : Prop where
  | present (there : world.statements statement ≠ none) (has : after.HasRegistry world.registry)
  | created (absent : world.statements statement = none) (holds : world.RegisteredHolds)
      (has : after.HasRegistry (world.registry.enter statement))

/-- Private data have been created beside a registered statement that holds no command. -/
structure Intruded (statement : StatementId) (world after : World σ) : Prop where
  absent : world.statements statement = none
  lacks : ¬world.RegisteredHolds
  same : after.registry = world.registry.intrude statement

theorem Entered.settles (entered : Entered statement world middle)
    (settles : Settles middle after) :
    Entered statement world after := by
  cases entered with
  | present there has => exact .present there (settles.from_registry has)
  | created absent holds has => exact .created absent holds (settles.from_registry has)

theorem registry_created (world : World σ) (statement : StatementId) :
    (world.created statement).registry = world.registry.intrude statement :=
  registry_update world statement (some DBModuleWrap.create)

/-- Beside new private data, the registered statement holds a command as it did before. -/
theorem holds_created {registered : StatementId} (absent : world.statements statement = none) :
    (world.created statement).Holds registered ↔ world.Holds registered := by
  by_cases same : registered = statement
  · subst same
    constructor
    · rintro ⟨wrap, cmd, held, context⟩
      obtain rfl : DBModuleWrap.create = wrap := by simpa [World.created] using held
      cases context
    · rintro ⟨wrap, cmd, held, -⟩
      exact absurd (absent.symm.trans held) (by simp)
  · have other : (world.created statement).statements registered = world.statements registered :=
      Function.update_of_ne same _ _
    unfold World.Holds
    rw [other]

/-- Registering new private data. -/
theorem wp_registerStatement_created (absent : world.statements statement = none) :
    wp (registerStatement cfg statement)
      (fun _ after => world.RegisteredHolds ∧ after.registry = world.registry.enter statement)
      (fun _ after => ¬world.RegisteredHolds ∧ after.registry = world.registry.intrude statement)
      (fun _ _ => True) (world.created statement) := by
  rw [registerStatement, wp_bind, wp_get]
  cases registered : world.connection.stmt with
  | none =>
    rw [show (world.created statement).connection.stmt = none from registered]
    refine (wp_modifyConnection _).mpr ⟨registeredHolds_none registered, ?_⟩
    rw [Registry.enter_of_none registered]
    exact congrArg (fun registry => (⟨some statement, registry.validity⟩ : Registry))
      (registry_created world statement)
  | some other =>
    rw [show (world.created statement).connection.stmt = some other from registered, wp_bind]
    refine wp_mono (wp_invalidate_registry other) (fun _ expired post => ?_) (fun _ _ post => ?_)
      fun _ _ _ => trivial
    · obtain ⟨holds, same⟩ := post
      have holding : world.Holds other := (holds_created absent).mp holds
      have different : other ≠ statement := by
        rintro rfl
        obtain ⟨wrap, cmd, held, -⟩ := holding
        exact absurd (absent.symm.trans held) (by simp)
      rw [wp_modifyConnection]
      refine ⟨(registeredHolds_some registered).mpr holding, ?_⟩
      rw [registry_created] at same
      rw [Registry.enter_of_some registered different]
      exact congrArg (fun registry => (⟨some statement, registry.validity⟩ : Registry)) same
    · obtain ⟨lacks, same⟩ := post
      refine ⟨(registeredHolds_some registered).not.mpr ((holds_created absent).not.mp lacks), ?_⟩
      exact same.trans (registry_created world statement)

/-- `module_wrap` creates private data where there are none, and registers them where the registered
statement can be invalidated. -/
theorem wp_moduleWrap_registry :
    wp (DBModuleWrap.moduleWrap cfg statement)
      (fun _ after => Entered statement world after ∧ after.statements statement ≠ none)
      (fun _ after => Intruded statement world after) (fun _ _ => True) world := by
  rw [DBModuleWrap.moduleWrap, wp_bind, wp_get]
  cases held : world.statements statement with
  | some wrap =>
    have there : world.statements statement ≠ none := by simp [held]
    exact ⟨.present there (.inl rfl), there⟩
  | none =>
    show wp (do
      modify fun world => { world with
        statements := Function.update world.statements statement (some DBModuleWrap.create) }
      Statement.checkOpen
      registerStatement cfg statement) _ _ _ world
    rw [wp_bind, wp_modify, wp_bind, Statement.checkOpen, wp_bind, wp_get]
    split
    · show wp (registerStatement cfg statement) _ _ _ (world.created statement)
      refine wp_mono (wp_registerStatement_created held) (fun _ after post => ?_)
        (fun _ _ post => ⟨held, post.1, post.2⟩) fun _ _ _ => trivial
      obtain ⟨holds, same⟩ := post
      refine ⟨.created held holds (.inl same), fun absent => ?_⟩
      have valid : after.registry.validity statement = some true := by
        rw [same]
        exact Function.update_self _ _ _
      exact absurd (valid.symm.trans (registry_validity_eq_none.mpr absent)) (by simp)
    · trivial

/-- How a method ends that begins with `module_wrap`. -/
def Enters (statement : StatementId) (world after : World σ) : Prop :=
  Entered statement world after ∨ Intruded statement world after

/-- A method that begins with `module_wrap`. -/
def Registers {α : Type} (statement : StatementId) (program : Driver σ α) (world : World σ) :
    Prop :=
  wp program (fun _ after => Enters statement world after)
    (fun _ after => Enters statement world after)
    (fun _ _ => True) world

/-- What follows `module_wrap` settles the registry. -/
theorem registers_moduleWrap {α : Type} {rest : Driver σ α}
    (settles : ∀ middle : World σ, middle.statements statement ≠ none →
      wp rest (fun _ after => Settles middle after) (fun _ after => Settles middle after)
        (fun _ _ => True) middle) (world : World σ) :
    Registers statement (do
      DBModuleWrap.moduleWrap cfg statement
      rest) world := by
  rw [Registers, wp_bind]
  refine wp_mono wp_moduleWrap_registry (fun _ middle post => ?_)
    (fun _ _ intruded => .inr intruded)
    fun _ _ _ => trivial
  obtain ⟨entered, there⟩ := post
  exact wp_mono (settles middle there) (fun _ _ settled => .inl (entered.settles settled))
    (fun _ _ settled => .inl (entered.settles settled)) fun _ _ _ => trivial

/-- What follows `module_wrap` is a method that settles the registry. -/
theorem registers_moduleWrap_keeps {α : Type} {rest : Driver σ α}
    (keeps : Keeps Settles StopsAnyhow rest) (world : World σ) :
    Registers statement (do
      DBModuleWrap.moduleWrap cfg statement
      rest) world :=
  registers_moduleWrap (fun middle _ => wp_mono (keeps middle) (fun _ _ settled => settled)
    (fun _ _ settled => settled) fun _ _ _ => trivial) world

theorem Enters.settles (enters : Enters statement world middle)
    (same : middle.registry = after.registry) :
    Enters statement world after := by
  rcases enters with entered | intruded
  · exact .inl (entered.settles (.inl same.symm))
  · exact .inr ⟨intruded.absent, intruded.lacks, same.symm.trans intruded.same⟩

/-- An error that is caught is raised in the sink. -/
theorem registers_caught {α : Type} {program : Driver σ α}
    (registers : Registers statement program world)
    (failed : α) : Registers statement (tryCatch program fun error => do
      error.raise
      pure failed) world := by
  rw [Registers, wp_tryCatch]
  refine wp_mono registers (fun _ _ enters => enters) (fun error middle enters => ?_) fun _ _ _ =>
    trivial
  have raised : Keeps SameRegistry StopsAnyhow (error.raise : Driver σ Unit) :=
    keeps_bind keeps_isException fun _ => keeps_when _ fun _ =>
      SameRegistry.baseStable.keeps_raiseException _ _
  rw [wp_bind]
  exact wp_mono (raised middle) (fun _ _ same => enters.settles same.symm)
    (fun _ _ same => enters.settles same.symm) fun _ _ _ => trivial

/-- The value of a method is dropped. -/
theorem registers_dropped {α : Type} {method : Driver σ α}
    (registers : Registers statement method world) :
    Registers statement (do
      let _ ← method
      pure ()) world := (wp_bind _ _).mpr registers

/-! ### Operations -/

theorem registers_prepareIntern (str : Text) (args : Option (List QoreValue)) (middle : World σ)
    (there : middle.statements statement ≠ none) :
    wp (DBModuleWrap.prepareIntern cfg statement str args) (fun _ after => Settles middle after)
      (fun _ after => Settles middle after) (fun _ _ => True) middle := by
  have stable := Settles.callStable cfg
  have registers : Registers statement (DBModuleWrap.prepareIntern cfg statement str args)
      middle := by
    refine registers_moduleWrap_keeps ?_ middle
    exact keeps_bind (stable.keeps_convertEncoding _ _) fun _ =>
      keeps_bind (stable.keeps_modifyModuleWrap statement fun _ => rfl) fun _ => keeps_pure _
  have settled : ∀ after, Enters statement middle after → Settles middle after := by
    rintro after (entered | intruded)
    · cases entered with
      | present _ has => exact has
      | created absent _ _ => exact absurd absent there
    · exact absurd intruded.absent there
  exact wp_mono registers (fun _ after enters => settled after enters)
    (fun _ after enters => settled after enters) fun _ _ _ => trivial

/-- `prepare` and `prepare_raw`. -/
theorem registers_prepare (raw : Bool) (str : Text) (args : Option (List QoreValue))
    (world : World σ) :
    Registers statement (do
      DBModuleWrap.moduleWrap cfg statement
      modifyModuleWrap statement fun wrap => { wrap with raw := raw }
      DBModuleWrap.prepareIntern cfg statement str args) world := by
  refine registers_moduleWrap (fun middle there => ?_) world
  rw [wp_bind, wp_modifyModuleWrap]
  have same : World.registry { middle with
      statements := Function.update middle.statements statement
        ((middle.statements statement).map fun wrap => { wrap with raw := raw }) } =
          middle.registry := by
    refine registry_wraps ?_ middle statement
    exact fun _ => rfl
  refine wp_mono (registers_prepareIntern str args _ ?_)
    (fun _ _ settled => settled.from_registry (.inl same))
    (fun _ _ settled => settled.from_registry (.inl same)) fun _ _ _ => trivial
  simpa using there

/-- Whether a method asks for private data: `close` does not, and most others do only while no
exception is pending. -/
def StatementOp.asksForData (op : StatementOp) (xsink : List QoreException) : Bool :=
  match op with
  | .close => false
  | .prepare _ _ | .prepareRaw _ | .bind _ | .exec => true
  | _ => xsink.isEmpty

/-- How a method of a statement ends, but `close`. -/
def MethodEnds (op : StatementOp) (statement : StatementId) (world after : World σ) : Prop :=
  if op.asksForData world.xsink = true then Enters statement world after else Settles world after

/-- A method in a wrapper that does nothing while an exception is pending. -/
theorem wp_run_registry {α : Type} (failed : α) {method : Driver σ α}
    (keeps : Keeps Settles StopsAnyhow method) (world : World σ) :
    wp (DBModuleWrap.run cfg statement failed method)
      (fun _ after => if world.xsink.isEmpty = true then Enters statement world after
        else Settles world after)
      (fun _ after => if world.xsink.isEmpty = true then Enters statement world after
        else Settles world after) (fun _ _ => True) world := by
  cases quiet : world.xsink.isEmpty with
  | true =>
    have registers : Registers statement (DBModuleWrap.runBody cfg statement failed method)
        world := by
      rw [DBModuleWrap.runBody, Registers, wp_bind, wp_isException, quiet]
      exact registers_moduleWrap_keeps keeps world
    exact registers_caught registers failed
  | false =>
    rw [DBModuleWrap.run, wp_tryCatch, DBModuleWrap.runBody, wp_bind, wp_isException, quiet]
    exact .inl rfl

theorem wp_statementOp_registry {op : StatementOp} (closes : op ≠ .close) (world : World σ) :
    wp (op.run cfg statement) (fun _ after => MethodEnds op statement world after)
      (fun _ after => MethodEnds op statement world after) (fun _ _ => True) world := by
  have stable := Settles.callStable cfg
  have reconnects := stable.keeps_topReconnect
  cases op with
  | prepare str args => exact registers_dropped (registers_prepare false str args world)
  | prepareRaw str => exact registers_dropped (registers_prepare true str none world)
  | close => exact absurd rfl closes
  | bind l =>
    refine registers_dropped (registers_moduleWrap_keeps ?_ world)
    exact keeps_bind (stable.keeps_modifyModuleWrap statement fun _ => rfl) fun _ => keeps_pure _
  | exec =>
    refine registers_dropped (registers_caught (registers_moduleWrap_keeps ?_ world) (-1))
    exact keeps_bind (stable.keeps_getModuleWrap statement) fun wrap =>
      stable.keeps_exec reconnects statement wrap.query wrap.params wrap.raw
  | bindPlaceholders l =>
    exact (wp_bind _ _).mpr (wp_run_registry _ (stable.keeps_bindPlaceholders statement l) world)
  | next =>
    exact (wp_bind _ _).mpr (wp_run_registry _ (stable.keeps_next reconnects statement) world)
  | fetchRow => exact (wp_bind _ _).mpr (wp_run_registry _ (stable.keeps_fetchRow statement) world)
  | fetchRows rows =>
    exact (wp_bind _ _).mpr
      (wp_run_registry _ (stable.keeps_fetchRows reconnects statement rows) world)
  | fetchColumns rows =>
    exact (wp_bind _ _).mpr (wp_run_registry _ (stable.keeps_fetchColumns statement rows) world)
  | getOutput =>
    exact (wp_bind _ _).mpr (wp_run_registry _ (stable.keeps_getOutput statement) world)
  | affectedRows =>
    exact (wp_bind _ _).mpr (wp_run_registry _ (stable.keeps_affectedRows statement) world)
  | unsupported => exact (wp_bind _ _).mpr (wp_run_registry _ (keeps_pure 0) world)

theorem registry_canceled (cmd : Command) : (world.canceled cfg cmd).registry = world.registry := by
  unfold World.canceled
  split
  · rfl
  · rfl

/-- Destroying a command keeps the registry, and fails no assertion about it. -/
theorem wp_destroyOption_registry (cmd : Option CommandId) :
    wp (Command.destroyOption cfg cmd) (fun _ after => after.registry = world.registry)
      (fun _ _ => False) (fun reason _ => reason ≠ .assertion .registered) world := by
  cases cmd with
  | none => exact rfl
  | some id =>
    rw [Command.destroyOption]
    cases held : world.commands id with
    | none =>
      rw [Command.destroy, wp_bind, wp_tryCatch, Command.clear, wp_bind, wp_getCommand]
      exact ⟨fun cmd present => absurd (held.symm.trans present) (by simp), fun _ => by simp⟩
    | some cmd =>
      rw [wp_destroy held]
      split
      · split
        · simp
        · exact registry_canceled cmd
      · exact rfl

/-- `close` removes private data; a valid statement is no longer registered. Where the registry is
consistent, it was that statement. -/
theorem wp_close_registry (statement : StatementId) (world : World σ) :
    wp (DBModuleWrap.close cfg statement)
      (fun _ after => after.registry = world.registry.remove statement) (fun _ _ => False)
      (fun reason _ => world.registry.Consistent → reason ≠ .assertion .registered) world := by
  have removed : ∀ (middle : World σ) (context : Option CommandId),
      middle.statements = world.statements →
      middle.connection.stmt = (world.registry.remove statement).registered →
        wp (do
          modify fun world => { world with
            statements := Function.update world.statements statement none }
          Command.destroyOption cfg context
          pure (0 : Int))
        (fun _ after => after.registry = world.registry.remove statement) (fun _ _ => False)
        (fun reason _ => world.registry.Consistent → reason ≠ .assertion .registered) middle := by
    intro middle context statements registered
    rw [wp_bind, wp_modify, wp_bind]
    refine wp_mono (wp_destroyOption_registry context) (fun _ after same => ?_)
      (fun _ _ absent => absent)
      fun _ _ other _ => other
    rw [wp_pure, same, registry_update]
    unfold Registry.remove World.registry
    rw [statements]
    exact congrArg (fun stmt => (⟨stmt, _⟩ : Registry)) registered
  rw [DBModuleWrap.close, wp_bind, wp_getModuleWrap]
  refine ⟨fun wrap held => ?_, fun _ _ => by simp⟩
  have validity : world.registry.validity statement = some wrap.m.valid := by
    show (world.statements statement).map (·.m.valid) = _
    rw [held]
    rfl
  rw [wp_bind, wp_when]
  refine ⟨fun valid => ?_, fun invalid => ?_⟩
  · rw [wp_bind, Statement.checkOpen, wp_bind, wp_get]
    split
    · rw [wp_pure, deregisterStatement, wp_bind, wp_get, wp_bind, wp_assert]
      have isTrue : world.registry.validity statement = some true :=
        validity.trans (congrArg some valid)
      refine ⟨fun fails consistent => ?_, fun _ => ?_⟩
      · have registered : world.connection.stmt = some statement := (consistent statement).mp isTrue
        simp [registered] at fails
      · rw [wp_modifyConnection]
        refine removed _ _ rfl ?_
        show none = if world.registry.validity statement = some true then none else _
        rw [if_pos isTrue]
    · exact fun _ => by simp
  · refine removed world _ rfl ?_
    have isFalse : world.registry.validity statement ≠ some true := fun isTrue =>
      invalid (Option.some.inj (validity.symm.trans isTrue))
    show _ = if world.registry.validity statement = some true then none else _
    rw [if_neg isFalse]
    rfl

/-! ### Invalidating -/

/-- A statement holds a command that can be disconnected: it is there, and a debug build finds its
handle. -/
def World.HoldsLive (cfg : Config σ) (world : World σ) (statement : StatementId) : Prop :=
  ∃ wrap id cmd, world.statements statement = some wrap ∧ wrap.m.context = some id ∧
    world.commands id = some cmd ∧ (cfg.build.debug = true → cmd.mCmd.isSome = true)

theorem not_holdsLive_of_context {wrap : ModuleWrap} (held : world.statements statement = some wrap)
    (lacks : ∀ id cmd, wrap.m.context = some id → world.commands id = some cmd →
      ¬(cfg.build.debug = true → cmd.mCmd.isSome = true)) : ¬world.HoldsLive cfg statement := by
  rintro ⟨wrap', id, cmd, held', context, there, live⟩
  obtain rfl := Option.some.inj (held.symm.trans held')
  exact lacks id cmd context there live

/-- Invalidating the registered statement returns where it holds a command that can be disconnected,
and nowhere else. -/
theorem wp_invalidateStatement_live (consistent : world.registry.Consistent)
    (registered : world.connection.stmt = some statement) :
    wp (invalidateStatement cfg) (fun _ _ => world.HoldsLive cfg statement)
      (fun _ _ => ¬world.HoldsLive cfg statement) (fun _ _ => ¬world.HoldsLive cfg statement)
        world := by
  have validity : world.registry.validity statement = some true :=
    (consistent statement).mpr registered
  obtain ⟨wrap, held, valid⟩ := Option.map_eq_some_iff.mp validity
  have noted : (world.record .other (.invalidate statement)).statements statement = some wrap :=
    held
  rw [invalidateStatement, wp_bind, wp_get, registered, wp_bind, invalidate, wp_bind, wp_modify,
    wp_bind, wp_getModuleWrap_some noted, wp_bind, wp_assert]
  refine ⟨fun fails => absurd fails (by simp [valid]), fun _ => ?_⟩
  cases context : wrap.m.context with
  | none =>
    exact not_holdsLive_of_context held fun id cmd same =>
      absurd (context.symm.trans same) (by simp)
  | some id =>
    rw [wp_bind]
    cases there : world.commands id with
    | none =>
      rw [Command.cancelDisconnect, wp_bind, wp_getCommand]
      refine ⟨fun cmd found => absurd (there.symm.trans found) (by simp), fun _ => ?_⟩
      refine not_holdsLive_of_context held fun other cmd same found => ?_
      obtain rfl := Option.some.inj (context.symm.trans same)
      exact absurd (there.symm.trans found) (by simp)
    | some cmd =>
      rw [wp_cancelDisconnect (show (world.record .other (.invalidate statement)).commands id =
        some cmd from there)]
      refine ⟨fun fails => ?_, fun passes => ?_⟩
      · refine not_holdsLive_of_context held fun other cmd' same found => ?_
        obtain rfl := Option.some.inj (context.symm.trans same)
        obtain rfl := Option.some.inj (there.symm.trans found)
        simpa using fails
      · rw [modifyStatement, wp_modifyModuleWrap, wp_modifyConnection]
        exact ⟨wrap, id, cmd, held, context,
          there, by simpa [Option.isSome_iff_ne_none] using passes⟩

/-- Invalidating what is registered succeeds: nothing is registered then, and the statement that was
is invalid. -/
def World.InvalidatesRegistered (cfg : Config σ) (world : World σ) : Prop :=
  ∃ after, invalidateStatement cfg world = (.ok (), after) ∧ after.connection.stmt = none ∧
    ∀ statement, world.connection.stmt = some statement →
    after.registry.validity statement = some false

/-- The registered statement, if there is one, holds a live command. -/
def World.RegisteredLive (cfg : Config σ) (world : World σ) : Prop :=
  ∀ statement, world.connection.stmt = some statement → world.HoldsLive cfg statement

/-- Where invalidating the registered statement returns, the statement is invalid and no longer
registered. -/
theorem invalidateStatement_returns (consistent : world.registry.Consistent)
    (returned : invalidateStatement cfg world = (.ok (), after)) :
    after.connection.stmt = none ∧
      ∀ statement, world.connection.stmt = some statement →
      after.registry.validity statement = some false := by
  have same := ((wp_iff_forall.mp wp_invalidateStatement_registry).1 () after returned).2
  refine ⟨(congrArg Registry.registered same).trans (Registry.invalidate_registered _),
    fun statement registered => ?_⟩
  have validity : world.registry.validity statement = some true :=
    (consistent statement).mpr registered
  rw [same, Registry.invalidate.eq_def, show world.registry.registered = some
    statement from registered]
  show Function.update world.registry.validity statement _ statement = some false
  rw [Function.update_self, validity]
  rfl

/-- Invalidating returns where the registered statement holds a live command, and nowhere else. -/
theorem wp_invalidateStatement_registeredLive (consistent : world.registry.Consistent) :
    wp (invalidateStatement cfg) (fun _ _ => world.RegisteredLive cfg)
      (fun _ _ => ¬world.RegisteredLive cfg) (fun _ _ => ¬world.RegisteredLive cfg) world := by
  cases registered : world.connection.stmt with
  | none =>
    rw [invalidateStatement, wp_bind, wp_get, registered]
    exact fun _ same => absurd (registered.symm.trans same) (by simp)
  | some statement =>
    have live : world.RegisteredLive cfg ↔ world.HoldsLive cfg statement := by
      refine ⟨fun all => all statement registered, fun holds other same => ?_⟩
      obtain rfl := Option.some.inj (registered.symm.trans same)
      exact holds
    rw [live]
    exact wp_invalidateStatement_live consistent registered

/-- Invalidating what is registered succeeds if and only if the registered statement holds a live
command. -/
theorem invalidatesRegistered_iff (consistent : world.registry.Consistent) :
    world.InvalidatesRegistered cfg ↔ world.RegisteredLive cfg := by
  have ends : wp (invalidateStatement cfg) _ _ _ world :=
    wp_invalidateStatement_registeredLive consistent
  obtain ⟨returned, thrown, halted⟩ := wp_iff_forall.mp ends
  constructor
  · rintro ⟨after, ran, -⟩
    exact returned () after ran
  · intro live
    rcases ran : invalidateStatement cfg world with ⟨_ | error | reason, after⟩
    · exact ⟨after, ran, invalidateStatement_returns consistent ran⟩
    · exact absurd live (thrown error after ran)
    · exact absurd live (halted reason after ran)

/-! ### Runs -/

/-- The operations on an open connection: all but those that open and close the Datasource. -/
def Op.isOnConnection : Op → Bool
  | .datasource .open | .datasource .close => false
  | _ => true

/-- Where a call creates private data, the registered statement holds a command. -/
def Call.Registers (world : World σ) (call : Call) : Prop :=
  ∀ statement op, call.op = .statement statement op → op.asksForData call.xsink = true →
    world.statements statement = none → world.RegisteredHolds

/-- A method of a statement leaves the registry consistent if and only if private data are created
beside a registered statement that holds a command. -/
theorem MethodEnds.consistent_iff {op : StatementOp} (ends : MethodEnds op statement world after)
    (consistent : world.registry.Consistent) : after.registry.Consistent ↔
      (op.asksForData world.xsink = true → world.statements statement = none →
        world.RegisteredHolds) := by
  rw [MethodEnds] at ends
  split at ends
  · rename_i asks
    rcases ends with entered | intruded
    · cases entered with
      | present there has =>
        exact iff_of_true (has.consistent consistent) fun _ absent => absurd absent there
      | created absent holds has =>
        exact iff_of_true (has.consistent (consistent.enter statement)) fun _ _ => holds
    · rw [intruded.same]
      exact iff_of_false (consistent.not_intrude (registry_validity_eq_none.mpr intruded.absent))
        fun orderly => intruded.lacks (orderly asks intruded.absent)
  · rename_i other
    exact iff_of_true (World.HasRegistry.consistent ends consistent) fun asks => absurd asks other

/-- A call leaves the registry consistent if and only if it creates private data beside a registered
statement that holds a command. -/
theorem consistent_iff_registers (consistent : world.registry.Consistent) {call : Call}
    (onConnection : call.op.isOnConnection = true)
    (ends : call.run cfg world = (.ok (), after) ∨
      ∃ error, call.run cfg world = (.throw error, after)) :
    after.registry.Consistent ↔ call.Registers world := by
  have post : wp (call.op.run cfg)
      (fun _ after => after.registry.Consistent ↔ call.Registers world)
      (fun _ after => after.registry.Consistent ↔ call.Registers world) (fun _ _ => True)
      (world.calling call) := by
    cases operation : call.op with
    | statement statement op =>
      have registers : call.Registers world ↔ (op.asksForData call.xsink = true →
          world.statements statement = none → world.RegisteredHolds) := by
        refine ⟨fun registers => registers statement op operation, fun holds other op' same => ?_⟩
        cases operation.symm.trans same
        exact holds
      by_cases closes : op = .close
      · subst closes
        refine (wp_bind _ _).mpr (wp_mono (wp_close_registry statement _) (fun _ _ removed => ?_)
          (fun _ _ absent => absent.elim) fun _ _ _ => trivial)
        rw [wp_pure, removed, registers]
        exact iff_of_true (Registry.Consistent.remove consistent statement)
          (by simp [StatementOp.asksForData])
      · have ended : ∀ after, MethodEnds op statement (world.calling call) after →
            (after.registry.Consistent ↔ call.Registers world) := fun after ends =>
          (ends.consistent_iff consistent).trans registers.symm
        exact wp_mono (wp_statementOp_registry closes _) (fun _ after ends => ended after ends)
          (fun _ after ends => ended after ends) fun _ _ _ => trivial
    | datasource op =>
      have settled : ∀ after, Settles (world.calling call) after →
          (after.registry.Consistent ↔ call.Registers world) := fun after settles =>
        iff_of_true (World.HasRegistry.consistent settles consistent) fun statement op' same =>
          absurd (operation.symm.trans same) (by simp)
      have keeps : Keeps Settles StopsAnyhow (op.run cfg) :=
        (Settles.callStable cfg).keeps_datasourceOp
          (fun opens => by simp [operation, opens, Op.isOnConnection] at onConnection)
          fun closes => by simp [operation, closes, Op.isOnConnection] at onConnection
      rw [Op.run, wp_bind, wp_get]
      split
      · exact wp_mono (keeps _) (fun _ after settles => settled after settles)
          (fun _ after settles => settled after settles) fun _ _ _ => trivial
      · trivial
  obtain ⟨returned, thrown, -⟩ := wp_iff_forall.mp post
  rcases ends with ran | ⟨error, ran⟩
  · exact returned () after ran
  · exact thrown error after ran

/-- The start of a run. -/
theorem World.IsStart.consistent (start : world.IsStart) : world.registry.Consistent := by
  intro statement
  show (world.statements statement).map _ = some true ↔ world.connection.stmt = some statement
  rw [start.statements, start.stmt]
  simp

/-- The operation invalidates the registered statement before anything else: it creates private
data, or it is a request of the Datasource. -/
def Op.invalidates (xsink : List QoreException) (world : World σ) : Op → Bool
  | .statement statement op => op.asksForData xsink && (world.statements statement).isNone
  | .datasource (.select _ _) | .datasource (.selectRow _ _) | .datasource (.selectRows _ _) => true
  | .datasource (.exec _ _) | .datasource (.execRaw _) | .datasource .getServerVersion => true
  | _ => false

/-- Where a call invalidates the registered statement, that statement holds a live command. -/
def Call.Orderly (cfg : Config σ) (world : World σ) (call : Call) : Prop :=
  call.op.invalidates call.xsink world = true → world.RegisteredLive cfg

theorem Call.Orderly.registers {call : Call} (orderly : call.Orderly cfg world) :
    call.Registers world := by
  intro statement op same asks absent
  have invalidates : call.op.invalidates call.xsink world = true := by
    simp [same, Op.invalidates, asks, absent]
  intro registered isRegistered
  obtain ⟨wrap, id, cmd, held, context, -⟩ := orderly invalidates registered isRegistered
  exact ⟨wrap, id, held, context⟩

/-- In every run of orderly calls on an open connection the registry is consistent. -/
theorem Reachable.consistent (reached : Reachable cfg
    (fun world call => call.op.isOnConnection = true ∧ call.Orderly cfg world) world) :
    world.registry.Consistent := by
  induction reached with
  | start start => exact start.consistent
  | call _ meets ends consistent =>
    exact (consistent_iff_registers consistent meets.1 ends).mpr meets.2.registers

/-- The configuration of the samples. No call of ct-lib is made in them. -/
abbrev quietConfig : Config (List Reply) := Config.sample (CtLib.scripted false) true 9

/-- The call that prepares a statement. -/
abbrev preparing (statement : StatementId) : Call :=
  ⟨[], .statement statement (.prepare (text "select 1") none)⟩

/-- A statement is prepared. -/
def registeredWorld : World (List Reply) := ((preparing 0).run quietConfig (World.opened [])).2

/-- A second statement is prepared then. -/
def intrudedWorld : World (List Reply) := ((preparing 1).run quietConfig registeredWorld).2

theorem registeredWorld_reachable : Reachable quietConfig
    (fun world call => call.op.isOnConnection = true ∧ call.Orderly quietConfig world)
    registeredWorld := by
  have start : (World.opened ([] : List Reply)).IsStart := ⟨rfl, rfl, rfl, rfl⟩
  have prepared : (preparing 0).run quietConfig (World.opened []) = (.ok (), registeredWorld) := rfl
  refine .call (.start start) ⟨rfl, fun _ statement registered => ?_⟩ (.inl prepared)
  exact absurd registered (by simp [World.opened])

end Sybase
