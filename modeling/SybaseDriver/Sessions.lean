/-
This file proves how the driver handles the connection handles of ct-lib over the whole life of a
Datasource: it is opened, reconnected and closed any number of times, and each of these may fail at
any call. At most one connection is there at a time, it is dropped exactly once, and none is left
when the Datasource is closed or was not opened.
-/

import SybaseDriver.CommandLogic
import SybaseDriver.Leases
import SybaseDriver.Operations

namespace Sybase

open Program Connection Leases

variable {σ : Type} {cfg : Config σ} {world after : World σ} {opened live : Bool}

/-! ### Touches -/

/-- What an entry of the log does with a connection handle: a successful `ct_con_alloc` acquires it,
and `ct_con_drop` releases it. -/
def Entry.connectionTouch (entry : Entry) : Option (Touch ConnectionHandle) :=
  match entry.event with
  | .call (.conAlloc handle) reply => if reply.code = .succeed then some (.acquire handle) else none
  | .call (.conDrop handle) _ => handle.map .release
  | _ => none

/-- What the calls in the log have done with connection handles. -/
def World.connectionTouches (world : World σ) : List (Touch ConnectionHandle) :=
  world.log.filterMap Entry.connectionTouch

/-- The calls that make or drop no connection. -/
def CtCall.isApart : CtCall → Bool
  | conAlloc _ | conDrop _ => false
  | _ => true

/-- The connections were made one at a time, and the one that is there is the one that the
connection object holds, where that object is live. The next connection is new. -/
structure Tended (opened live : Bool) (world : World σ) : Prop where
  isOpen : world.isOpen = opened
  solo : Solo world.connectionTouches (if live then world.connection.mConnection else none)
  below : ∀ touch ∈ world.connectionTouches, touch.resource < world.nextConnection

/-- Where the process stops, the connections were made one at a time. -/
def StopsSolo : Halt → World σ → Prop := fun _ last => ∃ held, Solo last.connectionTouches held

namespace Tended

theorem of_eq (tended : Tended opened live world) (isOpen : after.isOpen = world.isOpen)
    (touches : after.connectionTouches = world.connectionTouches)
    (held : after.connection.mConnection = world.connection.mConnection)
    (later : world.nextConnection ≤ after.nextConnection) : Tended opened live after where
  isOpen := isOpen.trans tended.isOpen
  solo := by
    rw [touches, held]
    exact tended.solo
  below touch member := Nat.lt_of_lt_of_le (tended.below touch (touches ▸ member)) later

theorem stops (tended : Tended opened live world) (reason : Halt) : StopsSolo reason world :=
  ⟨_, tended.solo⟩

/-- A call adds its touch. -/
theorem connectionTouches_answered (lib : CtLib σ) (site : Site) (call : CtCall) :
    (world.answered lib site call).connectionTouches =
      (Entry.connectionTouch ⟨world.depth, site, .call call (lib.reply call world.env).1⟩).toList ++
        world.connectionTouches := by
  rw [World.connectionTouches, answered_log, List.filterMap_cons]
  cases Entry.connectionTouch ⟨world.depth, site, .call call (lib.reply call world.env).1⟩ with
  | none => rfl
  | some touch => rfl

theorem call (tended : Tended opened live world) (cfg : Config σ) (site : Site) (call : CtCall)
    (apart : call.isApart = true) : Tended opened live (world.answered cfg.lib site call) := by
  refine tended.of_eq rfl ?_ rfl (Nat.le_refl _)
  cases call <;> first | rfl | cases apart

/-- The connection that the object holds is dropped. -/
theorem dropped (tended : Tended opened true world) (cfg : Config σ) :
    Tended opened false
      (world.answered cfg.lib .other (.conDrop world.connection.mConnection)) where
  isOpen := tended.isOpen
  solo := by
    have solo := tended.solo
    rw [connectionTouches_answered]
    rcases held : world.connection.mConnection with _ | handle
    · rw [held] at solo
      exact solo
    · rw [held] at solo
      exact solo.release
  below := by
    rw [connectionTouches_answered]
    intro touch member
    rcases held : world.connection.mConnection with _ | handle
    · rw [held] at member
      exact tended.below touch member
    · rw [held] at member
      rcases List.mem_cons.mp member with rfl | before
      · have solo := tended.solo
        rw [held] at solo
        exact tended.below (.acquire handle) (solo.held_iff.mp rfl).1
      · exact tended.below touch before

/-- An allocation touches the connection it makes. -/
theorem connectionTouches_alloc
    (succeeded : (cfg.lib.reply (.conAlloc world.nextConnection) world.env).1.code = .succeed) :
    (world.answered cfg.lib .other (.conAlloc world.nextConnection)).connectionTouches =
      .acquire world.nextConnection :: world.connectionTouches := by
  rw [connectionTouches_answered]
  simp [Entry.connectionTouch, succeeded]

/-- A connection is allocated where there is none. -/
theorem allocated (tended : Tended opened true world) (none : world.connection.mConnection = none)
    (succeeded : (cfg.lib.reply (.conAlloc world.nextConnection) world.env).1.code = .succeed) :
    Tended opened true { world.answered cfg.lib .other (.conAlloc world.nextConnection) with
      nextConnection := world.nextConnection + 1
      connection := { world.connection with mConnection := some world.nextConnection } } where
  isOpen := tended.isOpen
  solo := by
    have solo := tended.solo
    rw [none] at solo
    have fresh : Allowed world.connectionTouches (.acquire world.nextConnection) :=
      fun touch member same => absurd (tended.below touch member) (same ▸ Nat.lt_irrefl _)
    have acquired := solo.acquire fresh
    rwa [← connectionTouches_alloc succeeded] at acquired
  below touch member := by
    have member' := connectionTouches_alloc succeeded ▸ member
    rcases List.mem_cons.mp member' with rfl | before
    · exact Nat.lt_succ_self _
    · exact Nat.lt_succ_of_lt (tended.below touch before)

/-- A connection that was not allocated is not there. -/
theorem unallocated (tended : Tended opened live world) (site : Site) {handle : ConnectionHandle}
    (failed : (cfg.lib.reply (.conAlloc handle) world.env).1.code ≠ .succeed) :
    Tended opened live (world.answered cfg.lib site (.conAlloc handle)) := by
  refine tended.of_eq rfl ?_ rfl (Nat.le_refl _)
  rw [connectionTouches_answered]
  simp [Entry.connectionTouch, failed]

/-! ### Commands -/

/-- A call that makes or drops no connection. -/
theorem keeps_apart (cfg : Config σ) (site : Site) {call : CtCall} (apart : call.isApart = true) :
    Keeps (Preserves (Tended opened live)) (StopsHolding (Tended opened live) StopsSolo)
      (ctCallAt cfg site call) := fun _ tended => tended.call cfg site call apart

theorem baseStable : BaseStable (Preserves (Tended (σ := σ) opened live))
    (StopsHolding (Tended opened live) StopsSolo) where
  raise _ _ _ tended := tended.of_eq rfl rfl rfl (Nat.le_refl _)
  discard _ tended := tended.of_eq rfl rfl rfl (Nat.le_refl _)
  halts _ reason _ tended := tended.stops reason

theorem readingStable (cfg : Config σ) (id : CommandId) :
    ReadingStable cfg id (Preserves (Tended opened live))
      (StopsHolding (Tended opened live) StopsSolo) where
  toBaseStable := baseStable
  call site call _ _ reading _ tended := by
    refine tended.call cfg site call ?_
    cases call <;> first | rfl | cases reading
  value _ _ _ tended := tended.of_eq rfl rfl rfl (Nat.le_refl _)
  modify _ _ _ tended := tended.of_eq rfl rfl rfl (Nat.le_refl _)

theorem bindStable (cfg : Config σ) (id : CommandId) :
    BindStable cfg id (Preserves (Tended opened live))
      (StopsHolding (Tended opened live) StopsSolo) where
  toBaseStable := baseStable
  bind _ call binding tended := by
    refine tended.call cfg .other call ?_
    cases call <;> first | rfl | cases binding
  query _ _ tended := tended.of_eq rfl rfl rfl (Nat.le_refl _)

theorem destroyStable (cfg : Config σ) (id : CommandId) :
    DestroyStable cfg id (Preserves (Tended opened live))
      (StopsHolding (Tended opened live) StopsSolo) where
  toBaseStable := baseStable
  clear _ _ _ tended := tended.call cfg .clear _ rfl
  terminated _ _ _ tended := (tended.call cfg .clear _ rfl).stops _
  drop _ _ tended := tended.call cfg .other _ rfl
  handle _ tended := tended.of_eq rfl rfl rfl (Nat.le_refl _)
  remove _ tended := tended.of_eq rfl rfl rfl (Nat.le_refl _)

theorem keeps_create (cfg : Config σ) :
    Keeps (Preserves (Tended opened live)) (StopsHolding (Tended opened live) StopsSolo)
      (Command.create cfg) := fun world => wp_create.mpr fun tended =>
  (tended.call cfg .other (.cmdAlloc world.nextHandle) rfl).of_eq rfl rfl rfl (Nat.le_refl _)

theorem invalidatingStable (cfg : Config σ) :
    InvalidatingStable cfg (Preserves (Tended opened live))
      (StopsHolding (Tended opened live) StopsSolo) where
  toBaseStable := baseStable
  disconnects := baseStable.keeps_cancelDisconnect
    (fun site call _ _ about => keeps_apart cfg site (by cases call <;> first | rfl | cases about))
    fun _ _ tended => tended.of_eq rfl rfl rfl (Nat.le_refl _)
  noted _ _ tended := tended.of_eq rfl rfl rfl (Nat.le_refl _)
  invalid _ _ tended := tended.of_eq rfl rfl rfl (Nat.le_refl _)
  unregister _ tended := tended.of_eq rfl rfl rfl (Nat.le_refl _)

theorem sendStable (cfg : Config σ) :
    SendStable cfg (Preserves (Tended opened live))
      (StopsHolding (Tended opened live) StopsSolo) where
  toBaseStable := baseStable
  reading := readingStable cfg
  binding := bindStable cfg
  destroying := destroyStable cfg
  creates := keeps_create cfg
  asks _ call loud tended := by
    refine tended.call cfg .other call ?_
    cases call <;> first | rfl | cases loud
  invalidates := (invalidatingStable cfg).keeps_invalidateStatement

/-! ### Connecting -/

theorem configureStable (cfg : Config σ) :
    ConfigureStable cfg (Preserves (Tended opened live)) where
  toRaiseStable := baseStable.toRaiseStable
  configures _ call configuring tended := by
    refine tended.call cfg .other call ?_
    cases call <;> first | rfl | cases configuring
  configured _ _ _ same _ tended := tended.of_eq rfl rfl same (Nat.le_refl _)

/-- Closing the connection leaves none. -/
theorem wp_closeConnection (tended : Tended opened true world) (cfg : Config σ) (cmd : CommandId) :
    wp (closeConnection cfg cmd)
      (fun _ after => Tended opened true after ∧ after.connection.mConnection = none)
      (fun _ after => Tended opened true after) StopsSolo world := by
  rw [closeConnection, wp_bind]
  refine wp_mono (keeps_preserves.mp ((invalidatingStable cfg).disconnects cmd) world tended) ?_
    (fun _ _ kept => kept) fun _ _ stopped => stopped
  intro _ disconnected tended
  rw [wp_bind]
  refine wp_mono (keeps_preserves.mp (invalidatingStable cfg).keeps_invalidateStatement _ tended) ?_
    (fun _ _ kept => kept) fun _ _ stopped => stopped
  intro _ invalidated tended
  rw [wp_bind, wp_ctCall, wp_bind, wp_modifyConnection, wp_bind, wp_discardMessages, wp_bind,
    wasInTransaction, wp_bind, wp_get, wp_pure, wp_bind, wp_when]
  have drops : ∀ last : World σ, Tended opened true last → wp (do
      let _ ← ctCall cfg (.conDrop (← get).connection.mConnection)
      modifyConnection fun connection => { connection with mConnection := none })
      (fun _ after => Tended opened true after ∧ after.connection.mConnection = none)
      (fun _ after => Tended opened true after) StopsSolo last := by
    intro last tended
    rw [wp_bind, wp_get, wp_bind, wp_ctCall, wp_modifyConnection]
    exact ⟨⟨tended.isOpen, (tended.dropped cfg).solo, (tended.dropped cfg).below⟩, rfl⟩
  have closed := tended.call cfg .other (.close true) rfl
  exact ⟨fun _ => drops _ (closed.of_eq rfl rfl rfl (Nat.le_refl _)),
    fun _ => drops _ (closed.of_eq rfl rfl rfl (Nat.le_refl _))⟩

/-- Connecting where there is no connection. -/
theorem wp_init (tended : Tended opened true world) (none : world.connection.mConnection = none)
    {reconnect : Reconnect σ}
    (reconnects : ∀ cmd tryReconnect, Keeps (Preserves (Tended opened true))
      (StopsHolding (Tended opened true) StopsSolo) (reconnect cmd tryReconnect)) :
    wp (init cfg reconnect) (fun _ after => Tended opened true after)
      (fun _ after => Tended opened true after) StopsSolo world := by
  have stable : ConfigureStable cfg (Preserves (Tended (σ := σ) opened true)) := configureStable cfg
  have encoding := stable.keeps_setEncoding baseStable
    (fun _ tended => tended.of_eq rfl rfl rfl (Nat.le_refl _)) fun query args singleRow =>
      (sendStable cfg).keeps_execReadOutput reconnects query args true true false singleRow
  rw [init, wp_bind, wp_get, wp_bind, wp_assert]
  refine ⟨fun _ => tended.stops _, fun _ => ?_⟩
  rw [wp_bind, wp_modifyConnection, wp_bind, wp_ctCall]
  have begun : Tended opened true { world with
      connection := { world.connection with enc := cfg.qoreEncoding } } :=
    tended.of_eq rfl rfl rfl (Nat.le_refl _)
  split
  · rename_i failed
    rw [wp_bind, wp_raiseException, wp_pure]
    exact (begun.unallocated .other failed).of_eq rfl rfl rfl (Nat.le_refl _)
  · rename_i succeeded
    rw [wp_bind, wp_modify]
    refine keeps_preserves.mp ?_ _ (begun.allocated none (not_not.mp succeeded))
    exact stable.keeps_initCall rfl _ _ <| stable.keeps_initCall rfl _ _ <|
      stable.keeps_initCall rfl _ _ (stable.keeps_initPassword encoding)

/-- Reconnecting keeps one connection. The induction is on the nesting of reconnects. -/
theorem keeps_closeAndReconnect (cfg : Config σ) (bound : Nat) (cmd : CommandId)
    (tryReconnect : Bool) : Keeps (Preserves (Tended opened true))
      (StopsHolding (Tended opened true) StopsSolo)
      (closeAndReconnect cfg bound cmd tryReconnect) := by
  induction bound generalizing cmd tryReconnect with
  | zero => exact keeps_halt fun _ tended => tended.stops _
  | succ bound inductionHypothesis =>
    refine keeps_preserves.mpr fun world tended => ?_
    rw [closeAndReconnect, wp_bind, wp_modify, wp_bind]
    have lost : Tended opened true (world.record .other (.lost tryReconnect)) :=
      tended.of_eq rfl rfl rfl (Nat.le_refl _)
    refine wp_mono (lost.wp_closeConnection cfg cmd) ?_ (fun _ _ kept => kept)
      fun _ _ stopped => stopped
    rintro _ closed ⟨tended, none⟩
    rw [wp_bind, reopenConnection, wp_bind, wp_nested]
    have deeper : Tended opened true { closed with depth := closed.depth + 1 } :=
      tended.of_eq rfl rfl rfl (Nat.le_refl _)
    refine wp_mono (deeper.wp_init none inductionHypothesis) (fun failed connected tended => ?_)
      (fun _ _ tended => tended.of_eq rfl rfl rfl (Nat.le_refl _)) fun _ _ stopped => stopped
    split
    · exact tended.of_eq rfl rfl rfl (Nat.le_refl _)
    · rw [wp_bind, wasInTransaction, wp_bind, wp_get, wp_pure]
      split
      · exact tended.of_eq rfl rfl rfl (Nat.le_refl _)
      · exact tended.of_eq rfl rfl rfl (Nat.le_refl _)

theorem keeps_topReconnect (cfg : Config σ) (cmd : CommandId) (tryReconnect : Bool) :
    Keeps (Preserves (Tended opened true)) (StopsHolding (Tended opened true) StopsSolo)
      (topReconnect cfg cmd tryReconnect) := keeps_closeAndReconnect cfg cfg.fuel cmd tryReconnect

/-- The destructor of a connection drops the one it holds. -/
theorem wp_destroy (tended : Tended opened true world) (cfg : Config σ) :
    wp (Connection.destroy cfg) (fun _ after => Tended opened false after) noThrow StopsSolo
      world := by
  have dropped : ∀ last : World σ, Tended opened true last → wp (do
      let ret ← ctCall cfg (.conDrop last.connection.mConnection)
      assert cfg .other (ret.code = .succeed)) (fun _ after => Tended opened false after) noThrow
        StopsSolo last := by
    intro last tended
    rw [wp_bind, wp_ctCall, wp_assert]
    exact ⟨fun _ => (tended.dropped cfg).stops _, fun _ => tended.dropped cfg⟩
  rw [Connection.destroy, wp_bind, wp_tryCatch]
  refine wp_mono (keeps_preserves.mp (invalidatingStable cfg).keeps_invalidateStatement _ tended) ?_
    (fun _ _ tended => tended.stops .terminate) fun _ _ stopped => stopped
  intro _ last tended
  rw [dropConnection, wp_bind, wp_get, wp_when]
  refine ⟨fun _ => ?_, fun none => ?_⟩
  · rw [wp_bind, wp_when]
    refine ⟨fun _ => ?_, fun _ => dropped last tended⟩
    rw [wp_bind, wp_ctCall, wp_when]
    have closed := tended.call cfg .other (.close false) rfl
    refine ⟨fun _ => ?_, fun _ => dropped _ closed⟩
    rw [wp_bind, wp_ctCall, wp_assert]
    have forced := closed.call cfg .other (.close true) rfl
    exact ⟨fun _ => forced.stops _, fun _ => dropped _ forced⟩
  · have solo := tended.solo
    rw [Option.not_isSome_iff_eq_none.mp none] at solo
    exact ⟨tended.isOpen, solo, tended.below⟩

/-! ### Operations -/

theorem statementStable (cfg : Config σ) :
    StatementStable cfg (Preserves (Tended opened live))
      (StopsHolding (Tended opened live) StopsSolo) where
  toBaseStable := baseStable
  reading := readingStable cfg
  wraps _ _ _ _ tended := tended.of_eq rfl rfl rfl (Nat.le_refl _)

theorem keeps_moduleWrap (cfg : Config σ) (statement : StatementId) :
    Keeps (Preserves (Tended opened live)) (StopsHolding (Tended opened live) StopsSolo)
      (DBModuleWrap.moduleWrap cfg statement) :=
  baseStable.keeps_moduleWrap (fun _ _ tended => tended.of_eq rfl rfl rfl (Nat.le_refl _))
    ((invalidatingStable cfg).keeps_registerStatement statement fun _ tended =>
      tended.of_eq rfl rfl rfl (Nat.le_refl _))

theorem keeps_close (cfg : Config σ) (statement : StatementId) :
    Keeps (Preserves (Tended opened live)) (StopsHolding (Tended opened live) StopsSolo)
      (DBModuleWrap.close cfg statement) :=
  baseStable.keeps_close (fun _ tended => tended.of_eq rfl rfl rfl (Nat.le_refl _))
    (fun _ tended => tended.of_eq rfl rfl rfl (Nat.le_refl _)) (sendStable cfg).keeps_destroyOption

theorem directStable (cfg : Config σ) :
    DirectStable cfg (Preserves (Tended opened live))
      (StopsHolding (Tended opened live) StopsSolo) where
  toBaseStable := baseStable
  call _ site call _ direct tended := by
    refine tended.call cfg site call ?_
    cases call <;> first | rfl | cases direct
  alloc _ tended := tended.of_eq rfl rfl rfl (Nat.le_refl _)

/-- The operations on an open Datasource but those that open and close it. -/
theorem partsStable (cfg : Config σ) :
    PartsStable cfg (Preserves (Tended opened true))
      (StopsHolding (Tended opened true) StopsSolo) where
  toStatementStable := statementStable cfg
  requests := (sendStable cfg).keeps_execReadOutput (keeps_topReconnect cfg)
  commits := (directStable cfg).keeps_commit
  rollbacks := (directStable cfg).keeps_rollback
  nexts := (statementStable cfg).keeps_next
    ((sendStable cfg).keeps_readNextResult (keeps_topReconnect cfg))
  registers := keeps_moduleWrap cfg
  closes := keeps_close cfg
  executes := (sendStable cfg).executeStable.keeps_exec
    (fun _ _ _ tended => tended.of_eq rfl rfl rfl (Nat.le_refl _)) (keeps_topReconnect cfg)

/-- A statement of a Datasource that is closed does not use the connection. -/
theorem keeps_closed {α : Type} {rest : Unit → Driver σ α} :
    Keeps (Preserves (Tended false live)) (StopsHolding (Tended false live) StopsSolo) (do
      let checked ← Statement.checkOpen
      rest checked) := by
  refine keeps_preserves.mpr fun world tended => ?_
  rw [wp_bind, Statement.checkOpen, wp_bind, wp_get, if_neg (by simp [tended.isOpen]), wp_halt]
  exact tended.stops _

theorem closedStable (cfg : Config σ) :
    SQLStatementStable cfg (Preserves (Tended false live))
      (StopsHolding (Tended false live) StopsSolo) where
  toStatementStable := statementStable cfg
  nexts statement := by
    refine keeps_bind (baseStable.keeps_checkValid statement) fun invalid => ?_
    split
    · exact keeps_pure _
    · exact keeps_closed
  registers := keeps_moduleWrap cfg
  closes := keeps_close cfg
  executes statement query args raw := by
    refine keeps_bind (baseStable.keeps_checkValid statement) fun invalid => ?_
    split
    · exact keeps_pure _
    · exact keeps_bind ((statementStable cfg).keeps_cancelContext statement) fun _ => keeps_closed

/-! ### Opening and closing -/

/-- The connection object of a Datasource that is open is live. -/
def Tidy (world : World σ) : Prop := Tended world.isOpen world.isOpen world

theorem tidy (tended : Tended opened opened world) : Tidy world := by
  rw [Tidy, tended.isOpen]
  exact tended

/-- An error of a method is raised in the sink. -/
theorem wp_callback {α : Type} {failed : α} {method : Driver σ α} (opened : Bool)
    (runs : wp method (fun _ after => Tidy after) (fun _ after => Tended opened opened after)
      StopsSolo world) :
    wp (Datasource.callback failed method) (fun _ after => Tidy after) noThrow StopsSolo world := by
  rw [Datasource.callback, wp_tryCatch]
  refine wp_mono runs (fun _ _ tidy => tidy) (fun error last tended => ?_) fun _ _ stopped =>
    stopped
  rw [wp_bind, Error.raise, wp_bind, wp_isException, wp_when, wp_raiseException, wp_pure, wp_pure]
  exact ⟨fun _ => tidy (tended.of_eq rfl rfl rfl (Nat.le_refl _)), fun _ => tidy tended⟩

/-- Opening a Datasource leaves a connection where it succeeds, and none where it fails. -/
theorem wp_sybaseOpen (tended : Tended false false world) (cfg : Config σ) :
    wp (Datasource.sybaseOpen cfg) (fun _ after => Tidy after) noThrow StopsSolo world := by
  have begun : ∀ {live : Bool}, Tended false live { world with
      connection := Datasource.newConnection cfg, connectionAborted := false } := fun {live} =>
    ⟨tended.isOpen, by cases live <;> exact tended.solo, tended.below⟩
  have refused : ∀ {xsink : List QoreException}, Tidy { world with
      connection := Datasource.newConnection cfg, connectionAborted := false, xsink := xsink } :=
    tidy ⟨tended.isOpen, tended.solo, tended.below⟩
  refine wp_callback false ?_
  rw [wp_bind, wp_modify, wp_bind, wp_isException]
  split
  · exact begun.tidy
  · split
    · rw [wp_bind, wp_raiseException, wp_pure]
      exact refused
    · split
      · rw [wp_bind, wp_raiseException, wp_pure]
        exact refused
      · rw [wp_bind, wp_onThrow]
        have destroyed : ∀ last : World σ, Tended false true last → wp (Connection.destroy cfg)
            (fun _ after => Tended false false after) (fun _ after => Tended false false after)
              StopsSolo last := fun last tended =>
          wp_mono (tended.wp_destroy cfg) (fun _ _ tended => tended) (fun _ _ absent => absent.elim)
            fun _ _ stopped => stopped
        refine wp_mono (begun.wp_init rfl (keeps_topReconnect cfg)) (fun _ connected tended => ?_)
          (fun _ failed tended => destroyed failed tended) fun _ _ stopped => stopped
        rw [wp_bind, wp_isException]
        split
        · rw [wp_bind]
          exact wp_mono (destroyed connected tended) (fun _ _ tended => tended.tidy)
            (fun _ _ tended => tended) fun _ _ stopped => stopped
        · rw [wp_bind, wp_modify, wp_pure]
          exact tidy ⟨rfl, tended.solo, tended.below⟩

/-- Closing a Datasource leaves no connection. -/
theorem wp_sybaseClose (tended : Tended true true world) (cfg : Config σ) :
    wp (Datasource.sybaseClose cfg) (fun _ after => Tidy after) noThrow StopsSolo world := by
  rw [Datasource.sybaseClose, wp_bind, wp_modify, wp_bind]
  have closing : Tended false true { world with isOpen := false } :=
    ⟨rfl, tended.solo, tended.below⟩
  refine wp_mono (closing.wp_destroy cfg) (fun _ last tended => ?_) (fun _ _ absent => absent)
    fun _ _ stopped => stopped
  rw [wp_bind, wp_modify, wp_pure]
  exact tidy ⟨tended.isOpen, tended.solo, tended.below⟩

theorem keeps_op (cfg : Config σ) (op : Op) :
    Keeps (Preserves Tidy) (StopsHolding Tidy StopsSolo) (op.run cfg) := by
  refine keeps_preserves.mpr fun world tidy' => ?_
  -- what keeps the discipline of a Datasource that is open, or closed, keeps it
  have ofKeeps : ∀ {opened : Bool} {program : Driver σ Unit}, Tended opened opened world →
      Keeps (Preserves (Tended opened opened)) (StopsHolding (Tended opened opened) StopsSolo)
        program →
        wp program (fun _ after => Tidy after) (fun _ after => Tidy after) StopsSolo world :=
    fun tended keeps => wp_mono (keeps_preserves.mp keeps world tended) (fun _ _ kept => kept.tidy)
      (fun _ _ kept => kept.tidy) fun _ _ stopped => stopped
  have ofMethod : ∀ {method : Driver σ Int},
      wp method (fun _ after => Tidy after) noThrow StopsSolo world →
        wp (do let _ ← method; pure ()) (fun _ after => Tidy after) (fun _ after => Tidy after)
          StopsSolo world := fun runs =>
    (wp_bind _ _).mpr (wp_mono runs (fun _ _ tidy => tidy) (fun _ _ absent => absent.elim)
      fun _ _ stopped => stopped)
  have tended : Tended world.isOpen world.isOpen world := tidy'
  cases opened : world.isOpen with
  | true =>
    rw [opened] at tended
    cases op with
    | statement statement op =>
      exact ofKeeps tended ((partsStable cfg).toSQLStatementStable.keeps_statementOp statement op)
    | datasource op =>
      rw [Op.run, wp_bind, wp_get]
      split
      · cases op with
        | «open» =>
          rename_i called
          simp [DatasourceOp.isCalled, opened] at called
        | close => exact ofMethod (tended.wp_sybaseClose cfg)
        | _ => exact ofKeeps tended ((partsStable cfg).toQueryStable.keeps_datasourceOp
            (by simp) (by simp))
      · exact tended.stops .undefined
  | false =>
    rw [opened] at tended
    cases op with
    | statement statement op =>
      exact ofKeeps tended ((closedStable cfg).keeps_statementOp statement op)
    | datasource op =>
      rw [Op.run, wp_bind, wp_get]
      split
      · cases op with
        | «open» => exact ofMethod (tended.wp_sybaseOpen cfg)
        | _ =>
          rename_i called
          simp [DatasourceOp.isCalled, opened] at called
      · exact tended.stops .undefined

end Tended

/-! ### Runs -/

/-- The states that calls lead to. A run goes on after a call that returned or threw. -/
inductive LeadsTo (cfg : Config σ) (start : World σ) : World σ → Prop where
  | start : LeadsTo cfg start start
  | call {world after : World σ} {call : Call} (leads : LeadsTo cfg start world)
      (ends : call.run cfg world = (.ok (), after) ∨
        ∃ error, call.run cfg world = (.throw error, after)) : LeadsTo cfg start after

/-- The entry is a call that allocated a connection. -/
def Entry.AllocatesConnection (handle : ConnectionHandle) (entry : Entry) : Prop :=
  ∃ reply, entry.event = .call (.conAlloc handle) reply ∧ reply.code = .succeed

/-- The entry is a call that dropped a connection. -/
def Entry.DropsConnection (handle : ConnectionHandle) (entry : Entry) : Prop :=
  ∃ reply, entry.event = .call (.conDrop (some handle)) reply

/-- A connection is allocated when all those before it are dropped, and a connection is dropped
once, after it was allocated. The log has its newest entry first. -/
def ConnectionsInOrder (log : List Entry) : Prop :=
  ∀ later entry earlier handle, log = later ++ entry :: earlier →
    (entry.AllocatesConnection handle →
      ∀ before ∈ earlier, ∀ other, before.AllocatesConnection other →
        other ≠ handle ∧ ∃ dropped ∈ earlier, dropped.DropsConnection other) ∧
    (entry.DropsConnection handle →
      (∃ before ∈ earlier, before.AllocatesConnection handle) ∧
        ∀ before ∈ earlier, ¬before.DropsConnection handle)

namespace Entry

variable {entry : Entry} {handle : ConnectionHandle}

theorem connectionTouch_acquire_iff :
    entry.connectionTouch = some (.acquire handle) ↔ entry.AllocatesConnection handle := by
  constructor
  · intro touch
    rw [connectionTouch] at touch
    split at touch
    · rename_i allocated reply event
      split at touch
      · rename_i succeeded
        cases touch
        exact ⟨reply, event, succeeded⟩
      · cases touch
    · simp at touch
    · cases touch
  · rintro ⟨reply, event, succeeded⟩
    simp [connectionTouch, event, succeeded]

theorem connectionTouch_release_iff :
    entry.connectionTouch = some (.release handle) ↔ entry.DropsConnection handle := by
  constructor
  · intro touch
    rw [connectionTouch] at touch
    split at touch
    · split at touch
      · cases touch
      · cases touch
    · rename_i dropped reply event
      simp only [Option.map_eq_some_iff, Touch.release.injEq, exists_eq_right] at touch
      exact ⟨reply, touch ▸ event⟩
    · cases touch
  · rintro ⟨reply, event⟩
    simp [connectionTouch, event]

theorem mem_connectionTouches_acquire {log : List Entry} :
    .acquire handle ∈ log.filterMap connectionTouch ↔ ∃ entry ∈ log, entry.AllocatesConnection
      handle := by
  simp only [List.mem_filterMap, connectionTouch_acquire_iff]

theorem mem_connectionTouches_release {log : List Entry} :
    .release handle ∈ log.filterMap connectionTouch ↔ ∃ entry ∈ log, entry.DropsConnection
      handle := by
  simp only [List.mem_filterMap, connectionTouch_release_iff]

end Entry

theorem connectionsInOrder_of_solo {log : List Entry} {held : Option ConnectionHandle}
    (solo : Solo (log.filterMap Entry.connectionTouch) held) : ConnectionsInOrder log := by
  intro later entry earlier handle same
  rw [same, List.filterMap_append] at solo
  constructor
  · intro allocates before isEarlier other allocated
    rw [List.filterMap_cons_some (Entry.connectionTouch_acquire_iff.mpr allocates)] at solo
    have acquired := Entry.mem_connectionTouches_acquire.mpr ⟨before, isEarlier, allocated⟩
    exact ⟨solo.disciplined.allowed _ acquired,
      Entry.mem_connectionTouches_release.mp (solo.released_before acquired)⟩
  · intro drops
    rw [List.filterMap_cons_some (Entry.connectionTouch_release_iff.mpr drops)] at solo
    obtain ⟨acquired, unreleased⟩ := solo.disciplined.held_before (by simp)
    refine ⟨Entry.mem_connectionTouches_acquire.mp acquired, fun before isEarlier dropped => ?_⟩
    exact unreleased (Entry.mem_connectionTouches_release.mpr ⟨before, isEarlier, dropped⟩)

namespace LeadsTo

variable {start : World σ}

/-- In every state that the life of a Datasource leads to, its connections were made one at a
time. -/
theorem tidy (leads : LeadsTo cfg start world) (isStart : start.IsStart)
    (closed : start.isOpen = false) : Tended.Tidy world := by
  induction leads with
  | start =>
    have touches : start.connectionTouches = [] := by
      rw [World.connectionTouches, isStart.log, List.filterMap_nil]
    have begun : Tended false false start :=
      ⟨closed, touches ▸ .start, fun touch member => absurd (touches ▸ member) List.not_mem_nil⟩
    exact begun.tidy
  | @call world after call _ ends tidy =>
    have calling : Tended.Tidy (world.calling call) := tidy.of_eq rfl rfl rfl (Nat.le_refl _)
    have kept := wp_iff_forall.mp
      (keeps_preserves.mp (Tended.keeps_op cfg call.op) (world.calling call) calling)
    rcases ends with returns | ⟨error, throws⟩
    · exact kept.1 _ _ returns
    · exact kept.2.1 _ _ throws

/-- From the opening of a Datasource on, also where the process stops in the middle of a call, it
has one connection at a time: each is dropped once, and before the next one is allocated. -/
theorem connectionsInOrder_of_leads (leads : LeadsTo cfg start world) (isStart : start.IsStart)
    (closed : start.isOpen = false) (call : Call) :
    ConnectionsInOrder (call.run cfg world).2.log := by
  have calling : Tended.Tidy (world.calling call) :=
    (leads.tidy isStart closed).of_eq rfl rfl rfl (Nat.le_refl _)
  have run := keeps_preserves.mp (Tended.keeps_op cfg call.op) _ calling
  obtain ⟨returned, thrown, halted⟩ := wp_iff_forall.mp run
  rcases ended : call.run cfg world with ⟨value | error | reason, last⟩
  · exact connectionsInOrder_of_solo (returned value last ended).solo
  · exact connectionsInOrder_of_solo (thrown error last ended).solo
  · obtain ⟨held, solo⟩ := halted reason last ended
    exact connectionsInOrder_of_solo solo

/-- A connection that was allocated and not dropped is the one of a Datasource that is open: none is
left when the Datasource is closed, or could not be opened. -/
theorem allocated_connection_iff (leads : LeadsTo cfg start world) (isStart : start.IsStart)
    (closed : start.isOpen = false) (handle : ConnectionHandle) :
    ((∃ entry ∈ world.log, entry.AllocatesConnection handle) ∧
        ¬∃ entry ∈ world.log, entry.DropsConnection handle) ↔
      world.isOpen = true ∧ world.connection.mConnection = some handle := by
  rw [← Entry.mem_connectionTouches_acquire, ← Entry.mem_connectionTouches_release]
  have tidy := leads.tidy isStart closed
  refine (tidy.solo.held_iff).symm.trans ?_
  cases world.isOpen with
  | true => simp
  | false => simp

/-- A call that returns leads on. -/
theorem of_returned {call : Call} (leads : LeadsTo cfg start world)
    (returns : (call.run cfg world).1.returns (fun _ => true) = true) :
    LeadsTo cfg start (call.run cfg world).2 := by
  obtain ⟨⟨⟩, ran, -⟩ := exists_returned returns
  exact leads.call (.inl ran)

end LeadsTo

/-- A Datasource that is not open yet. -/
def World.unopened (script : List Reply) : World (List Reply) :=
  { World.opened script with
    isOpen := false, connection := ⟨none, false, false, ⟨[], false⟩, none⟩ }

/-- Opening a Datasource. -/
def openCall : Call := ⟨[], .datasource .open⟩

/-- The answers of a server that refuses a connection. -/
def refusedScript : List Reply := [{}, {}, {}, {}, { code := .fail }, {}]

/-- The answers of a server that takes a connection, and has no rows for the queries of `init`. -/
def takenScript : List Reply :=
  [{}, {}, {}, {}, {}, {}, {}, {}, {}, {}, {}, {}, { code := .endResults }, {}, {}, {}, {},
    { code := .endResults }, {}]

/-- A Datasource that a server refuses, and then takes. -/
def World.refused : World (List Reply) :=
  (openCall.run (Config.sample (CtLib.scripted false) true 9)
    (World.unopened (refusedScript ++ takenScript))).2

theorem leadsTo_refused : LeadsTo (Config.sample (CtLib.scripted false) true 9)
    (World.unopened (refusedScript ++ takenScript)) World.refused :=
  LeadsTo.start.of_returned (by decide +kernel)

theorem connectionsInOrder_of_leads_refused :
    ConnectionsInOrder
      (openCall.run (Config.sample (CtLib.scripted false) true 9) World.refused).2.log ∧
    (openCall.run (Config.sample (CtLib.scripted false) true 9) World.refused).2.connectionTouches =
      [.acquire 2, .release 1, .acquire 1] :=
  ⟨leadsTo_refused.connectionsInOrder_of_leads ⟨rfl, rfl, rfl, rfl⟩ rfl openCall, by decide +kernel⟩

theorem allocated_connection_iff_refused :
    (((∃ entry ∈ World.refused.log, entry.AllocatesConnection 1) ∧
        ¬∃ entry ∈ World.refused.log, entry.DropsConnection 1) ↔
      World.refused.isOpen = true ∧ World.refused.connection.mConnection = some 1) ∧
    World.refused.isOpen = false ∧ World.refused.connectionTouches = [.release 1, .acquire 1] :=
  ⟨leadsTo_refused.allocated_connection_iff ⟨rfl, rfl, rfl, rfl⟩ rfl 1, by decide +kernel,
    by decide +kernel⟩

end Sybase
