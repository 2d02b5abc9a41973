/-
This file proves how the driver handles the command handles of ct-lib, in every run and for every
ct-lib. A handle belongs to the command object that allocated it, or to `direct_execute` for the
time it runs. It is used only while it is held, it is dropped at most once, and no call is about it
after that; also where the process stops in the middle of a call.
-/

import SybaseDriver.CommandLogic
import SybaseDriver.Leases
import SybaseDriver.Operations

namespace Sybase

open Program Connection Leases

variable {σ : Type} {cfg : Config σ} {world after : World σ} {own : Option Handle} {id : CommandId}
  {cmd : Command}

/-! ### Numbers -/

namespace Numbered

theorem change (numbered : Numbered world) (id : CommandId) (change : Command → Command) :
    Numbered { world with
      commands := Function.update world.commands id ((world.commands id).map change) } := by
  intro other cmd held
  by_cases isId : other = id
  · subst isId
    simp only [Function.update_self, Option.map_eq_some_iff] at held
    obtain ⟨before, held, -⟩ := held
    exact numbered other before held
  · exact numbered other cmd (by simpa [isId] using held)

theorem removed (numbered : Numbered world) (id : CommandId) : Numbered (world.removed id) := by
  intro other cmd held
  by_cases isId : other = id
  · simp [World.removed, isId] at held
  · exact numbered other cmd (by simpa [World.removed, isId] using held)

theorem allocated (numbered : Numbered world) : Numbered (world.allocated cfg) := by
  intro other cmd held
  by_cases isNew : other = world.nextCommand
  · exact isNew ▸ Nat.lt_succ_self _
  · exact Nat.lt_succ_of_lt (numbered other cmd (by simpa [World.allocated, isNew] using held))

end Numbered

/-! ### Touches -/

/-- What an entry of the log does with a command handle: a successful `ct_cmd_alloc` acquires it,
`ct_cmd_drop` releases it, and every other call about it uses it. -/
def Entry.touch (entry : Entry) : Option (Touch Handle) :=
  match entry.event with
  | .call (.cmdAlloc handle) reply => if reply.code = .succeed then some (.acquire handle) else none
  | .call (.cmdDrop handle) _ => handle.map .release
  | .call call _ => call.command?.join.map .use
  | _ => none

/-- What the calls in the log have done with command handles. -/
def World.touches (world : World σ) : List (Touch Handle) := world.log.filterMap Entry.touch

/-- What holds command handles: the command objects, and `direct_execute`. -/
def World.holder (own : Option Handle) (world : World σ) : Option CommandId → Option Handle
  | some id => (world.commands id).bind Command.mCmd
  | none => own

/-- The handles were handled with discipline, each one that is outstanding has one holder, and the
next handle and the next command are new. -/
structure Leased (own : Option Handle) (world : World σ) : Prop where
  assigned : Assigned world.touches (world.holder own)
  below : ∀ touch ∈ world.touches, touch.resource < world.nextHandle
  numbered : Numbered world

/-- Where the process stops, the handles were handled with discipline. -/
def StopsDisciplined (own : Option Handle) : Halt → World σ → World σ → Prop :=
  StopsHolding (Leased own) fun _ last => Disciplined last.touches

namespace Leased

theorem of_eq (leased : Leased own world) (touches : after.touches = world.touches)
    (holder : after.holder own = world.holder own) (later : world.nextHandle ≤ after.nextHandle)
    (numbered : Numbered after) : Leased own after where
  assigned := by
    rw [touches, holder]
    exact leased.assigned
  below touch member := Nat.lt_of_lt_of_le (leased.below touch (touches ▸ member)) later
  numbered := numbered

/-- A call adds its touch. -/
theorem touches_answered (lib : CtLib σ) (site : Site) (call : CtCall) :
    (world.answered lib site call).touches =
      (Entry.touch ⟨world.depth, site, .call call (lib.reply call world.env).1⟩).toList ++
        world.touches := by
  rw [World.touches, answered_log, List.filterMap_cons]
  cases Entry.touch ⟨world.depth, site, .call call (lib.reply call world.env).1⟩ with
  | none => rfl
  | some touch => rfl

/-- A call that is about no handle. -/
theorem touch_of_noHandle {depth : Nat} {site : Site} {call : CtCall} {reply : Reply}
    (about : call.command?.join = none) (alloc : ∀ handle, call ≠ .cmdAlloc handle) :
    Entry.touch ⟨depth, site, .call call reply⟩ = none := by
  cases call with
  | cmdAlloc handle => exact absurd rfl (alloc handle)
  | cmdDrop handle =>
    have none : handle = none := about
    rw [none]
    rfl
  | _ => simp [Entry.touch, about]

theorem call_noHandle (leased : Leased own world) (site : Site) {call : CtCall}
    (about : call.command?.join = none) (alloc : ∀ handle, call ≠ .cmdAlloc handle) :
    Leased own (world.answered cfg.lib site call) := by
  refine leased.of_eq ?_ rfl (Nat.le_refl _) leased.numbered
  rw [touches_answered, touch_of_noHandle about alloc]
  rfl

/-- A call that uses a handle which is held. -/
theorem call_use (leased : Leased own world) (index : Option CommandId) (site : Site)
    {call : CtCall} {handle : Handle} (about : call.command? = some (some handle))
    (drop : ∀ handle, call ≠ .cmdDrop handle) (holds : world.holder own index = some handle) :
    Leased own (world.answered cfg.lib site call) := by
  have touches : (world.answered cfg.lib site call).touches = .use handle :: world.touches := by
    rw [touches_answered]
    cases call with
    | cmdDrop handle => exact absurd rfl (drop handle)
    | cmdAlloc handle => cases about
    | _ => simp [Entry.touch, about]
  refine ⟨?_, ?_, leased.numbered⟩
  · rw [touches]
    exact leased.assigned.use holds
  · rw [touches]
    refine List.forall_mem_cons.mpr ⟨?_, leased.below⟩
    have out := (leased.assigned.held handle).mpr ⟨index, holds⟩
    exact leased.below (.acquire handle) (acquired_of_outstanding out)

/-- A call about the handle of a command, or about none where the command holds none. -/
theorem call_command (leased : Leased own world) (site : Site) {call : CtCall}
    (held : world.commands id = some cmd) (about : call.command? = some cmd.mCmd)
    (drop : ∀ handle, call ≠ .cmdDrop handle) : Leased own (world.answered cfg.lib site call) := by
  cases handle : cmd.mCmd with
  | none =>
    refine leased.call_noHandle site (by rw [about, handle]; rfl) fun other => ?_
    rintro rfl
    cases about
  | some handle' =>
    refine leased.call_use (some id) site (by rw [about, handle]) drop ?_
    simp [World.holder, held, handle]

/-- A change of commands that keeps their handles. -/
theorem change (leased : Leased own world) {change : Command → Command}
    (same : ∀ cmd, (change cmd).mCmd = cmd.mCmd) : Leased own { world with
      commands := Function.update world.commands id ((world.commands id).map change) } := by
  refine leased.of_eq rfl ?_ (Nat.le_refl _) (leased.numbered.change id change)
  funext index
  cases index with
  | none => rfl
  | some other =>
    by_cases isId : other = id
    · subst isId
      cases held : world.commands other with
      | none => simp [World.holder, held]
      | some cmd => simp [World.holder, held, same]
    · simp [World.holder, isId]

/-- A holder that holds nothing gets the handle that is allocated, if there is one. -/
theorem allocates {own' : Option Handle} (leased : Leased own world) (cfg : Config σ)
    (index : Option CommandId) (empty : world.holder own index = none)
    (touches : after.touches = ((world.newHandle cfg).map .acquire).toList ++ world.touches)
    (holder : after.holder own' = Function.update (world.holder own) index (world.newHandle cfg))
    (later : after.nextHandle = world.nextHandle + 1) (numbered : Numbered after) :
    Leased own' after := by
  have isNew : Allowed world.touches (.acquire world.nextHandle) := fun touch member same =>
    absurd (leased.below touch member) (same ▸ Nat.lt_irrefl _)
  have older : ∀ touch ∈ world.touches, touch.resource < world.nextHandle + 1 :=
    fun touch member => Nat.lt_succ_of_lt (leased.below touch member)
  rcases handle : world.newHandle cfg with _ | new
  · rw [handle] at holder touches
    refine ⟨?_, ?_, numbered⟩
    · rw [holder, ← empty, Function.update_eq_self, touches]
      exact leased.assigned
    · rw [touches, later]
      exact older
  · have same : world.nextHandle = new := by
      rw [World.newHandle] at handle
      split at handle
      · exact Option.some_inj.mp handle
      · cases handle
    rw [handle, ← same] at holder touches
    refine ⟨?_, ?_, numbered⟩
    · rw [holder, touches]
      exact leased.assigned.acquire isNew empty
    · rw [touches, later]
      exact List.forall_mem_cons.mpr ⟨Nat.lt_succ_self _, older⟩

/-- A holder drops what it holds. -/
theorem drops {own' : Option Handle} (leased : Leased own world) (index : Option CommandId)
    (touches : after.touches = ((world.holder own index).map .release).toList ++ world.touches)
    (holder : after.holder own' = Function.update (world.holder own) index none)
    (later : after.nextHandle = world.nextHandle) (numbered : Numbered after) :
    Leased own' after := by
  rcases holds : world.holder own index with _ | released
  · rw [holds] at touches
    refine ⟨?_, ?_, numbered⟩
    · rw [holder, ← holds, Function.update_eq_self, touches]
      exact leased.assigned
    · rw [touches, later]
      exact leased.below
  · rw [holds] at touches
    refine ⟨?_, ?_, numbered⟩
    · rw [holder, touches]
      exact leased.assigned.release holds
    · rw [touches, later]
      have out := (leased.assigned.held released).mpr ⟨index, holds⟩
      have acquired := leased.below (.acquire released) (acquired_of_outstanding out)
      exact List.forall_mem_cons.mpr ⟨acquired, leased.below⟩

/-- An allocation touches the handle it returns. -/
theorem touches_alloc (cfg : Config σ) (world : World σ) (site : Site) :
    (world.answered cfg.lib site (.cmdAlloc world.nextHandle)).touches =
      ((world.newHandle cfg).map .acquire).toList ++ world.touches := by
  rw [touches_answered]
  simp only [Entry.touch, World.newHandle]
  split
  · rfl
  · rfl

/-- A new command holds the handle that was allocated for it, if there is one. -/
theorem allocated (leased : Leased own world) : Leased own (world.allocated cfg) := by
  refine leased.allocates cfg (some world.nextCommand) ?_
    (touches_alloc cfg world .other) ?_ rfl leased.numbered.allocated
  · cases held : world.commands world.nextCommand with
    | none => simp [World.holder, held]
    | some cmd => exact absurd (leased.numbered _ cmd held) (Nat.lt_irrefl _)
  · funext index
    cases index with
    | none => rfl
    | some other =>
      by_cases isNew : other = world.nextCommand
      · subst isNew
        simp [World.holder, World.allocated]
      · simp [World.holder, World.allocated, isNew]

/-- A command drops the handle it holds. -/
theorem dropped (leased : Leased own world) (held : world.commands id = some cmd) :
    Leased own (world.dropped cfg id cmd) := by
  have holds : world.holder own (some id) = cmd.mCmd := by simp [World.holder, held]
  refine leased.drops (some id) ?_ ?_ rfl (leased.numbered.change id _)
  · rw [holds]
    exact touches_answered cfg.lib .other (.cmdDrop cmd.mCmd)
  · funext index
    cases index with
    | none => rfl
    | some other =>
      by_cases isId : other = id
      · subst isId
        simp [World.holder, World.dropped, held]
      · simp [World.holder, World.dropped, isId]

/-- A command that holds no handle is removed. -/
theorem removed (leased : Leased own world)
    (none : ∀ cmd, world.commands id = some cmd → cmd.mCmd = none) :
    Leased own (world.removed id) := by
  refine leased.of_eq rfl ?_ (Nat.le_refl _) (leased.numbered.removed id)
  funext index
  cases index with
  | none => rfl
  | some other =>
    by_cases isId : other = id
    · subst isId
      cases held : world.commands other with
      | none => simp [World.holder, World.removed, held]
      | some cmd => simp [World.holder, World.removed, held, none cmd held]
    · simp [World.holder, World.removed, isId]

/-! ### Commands -/

theorem baseStable : BaseStable (Preserves (Leased (σ := σ) own)) (StopsDisciplined own) where
  raise _ _ _ leased := leased.of_eq rfl rfl (Nat.le_refl _) leased.numbered
  discard _ leased := leased.of_eq rfl rfl (Nat.le_refl _) leased.numbered
  halts _ _ _ leased := leased.assigned.disciplined

theorem readingStable (cfg : Config σ) (own : Option Handle) (id : CommandId) :
    ReadingStable cfg id (Preserves (Leased own)) (StopsDisciplined own) where
  toBaseStable := baseStable
  call site call _ held reading about leased := by
    refine leased.call_command site held about fun handle => ?_
    rintro rfl
    cases reading
  value _ _ _ leased := leased.of_eq rfl rfl (Nat.le_refl _) leased.numbered
  modify _ _ same leased := leased.change fun cmd => (same cmd).1

theorem setUpStable (cfg : Config σ) (own : Option Handle) (id : CommandId) :
    SetUpStable cfg id (Preserves (Leased own)) (StopsDisciplined own) where
  toBaseStable := baseStable
  bind call held binding about leased := by
    refine leased.call_command .other held about fun handle => ?_
    rintro rfl
    cases binding
  query _ _ leased := leased.change fun _ => rfl

/-- A call that is about no handle. -/
theorem keeps_noHandle (cfg : Config σ) (own : Option Handle) (site : Site) {call : CtCall}
    (about : call.command?.join = none) (alloc : ∀ handle, call ≠ .cmdAlloc handle) :
    Keeps (Preserves (Leased own)) (StopsDisciplined own) (ctCallAt cfg site call) :=
  fun _ leased => leased.call_noHandle site about alloc

theorem keeps_send (cfg : Config σ) (own : Option Handle) (id : CommandId) :
    Keeps (Preserves (Leased own)) (StopsDisciplined own) (Command.send cfg id) := by
  have base : BaseStable (Preserves (Leased (σ := σ) own)) (StopsDisciplined own) := baseStable
  refine base.keeps_getCommand fun world cmd held => ?_
  rw [wp_bind, wp_ctCall]
  exact keeps_after (fun leased => leased.call_command .other held rfl (by simp))
    (keeps_when _ fun _ => base.keeps_doException _ _)

theorem keeps_cancelDisconnect (cfg : Config σ) (own : Option Handle) (id : CommandId) :
    Keeps (Preserves (Leased own)) (StopsDisciplined own) (Command.cancelDisconnect cfg id) := by
  refine keeps_preserves.mpr fun world leased => ?_
  cases held : world.commands id with
  | none =>
    rw [Command.cancelDisconnect, wp_bind, wp_getCommand]
    exact ⟨fun _ held' => absurd (held.symm.trans held') (by simp),
      fun _ => leased.assigned.disciplined⟩
  | some cmd =>
    rw [wp_cancelDisconnect held]
    refine ⟨fun _ => leased.assigned.disciplined, fun _ => ?_⟩
    have canceled : Leased own (world.answered cfg.lib .cancelDisconnect (.cancel cmd.mCmd)) :=
      leased.call_command _ held rfl (by simp)
    have held' :
        (world.answered cfg.lib .cancelDisconnect (.cancel cmd.mCmd)).commands id = some cmd :=
      held
    exact canceled.dropped held'

/-- The cancel of `clear`. -/
theorem canceled (leased : Leased own world) (held : world.commands id = some cmd) :
    Leased own (world.canceled cfg cmd) := by
  rw [World.canceled]
  split
  · exact leased.call_command _ held rfl (by simp)
  · exact leased

theorem keeps_destroy (cfg : Config σ) (own : Option Handle) (id : CommandId) :
    Keeps (Preserves (Leased own)) (StopsDisciplined own) (Command.destroy cfg id) := by
  refine keeps_preserves.mpr fun world leased => ?_
  cases held : world.commands id with
  | none =>
    rw [Command.destroy, wp_bind, wp_tryCatch, Command.clear, wp_bind, wp_getCommand]
    exact ⟨fun _ held' => absurd (held.symm.trans held') (by simp),
      fun _ => leased.assigned.disciplined⟩
  | some cmd =>
    have canceled : Leased own (world.canceled cfg cmd) := leased.canceled held
    have held' : (world.canceled cfg cmd).commands id = some cmd := by
      rw [World.canceled]
      split
      · exact held
      · exact held
    rw [wp_destroy held]
    split
    · split
      · exact canceled.assigned.disciplined
      · refine (canceled.dropped held').removed fun cmd' dropped => ?_
        simp only [World.dropped, Function.update_self, held', Option.map_some,
          Option.some.injEq] at dropped
        rw [← dropped]
    · rename_i none
      refine leased.removed fun cmd' same => ?_
      rw [← Option.some_inj.mp (held.symm.trans same)]
      simpa using none

theorem keeps_create (cfg : Config σ) (own : Option Handle) :
    Keeps (Preserves (Leased own)) (StopsDisciplined own) (Command.create cfg) :=
  fun _ => wp_create.mpr fun leased => leased.allocated

/-! ### Requests -/

theorem invalidatingStable (cfg : Config σ) (own : Option Handle) :
    InvalidatingStable cfg (Preserves (Leased own)) (StopsDisciplined own) where
  toBaseStable := baseStable
  disconnects := keeps_cancelDisconnect cfg own
  noted _ _ leased := leased.of_eq rfl rfl (Nat.le_refl _) leased.numbered
  invalid _ _ leased := leased.of_eq rfl rfl (Nat.le_refl _) leased.numbered
  unregister _ leased := leased.of_eq rfl rfl (Nat.le_refl _) leased.numbered

theorem executeStable (cfg : Config σ) (own : Option Handle) :
    ExecuteStable cfg (Preserves (Leased own)) (StopsDisciplined own) where
  toBaseStable := baseStable
  reading := readingStable cfg own
  creates := keeps_create cfg own
  binds id := (setUpStable cfg own id).keeps_bindQuery
  sends := keeps_send cfg own
  pings := keeps_bind (keeps_noHandle cfg own .other rfl (by simp)) fun _ => keeps_pure _
  destroys := keeps_destroy cfg own
  invalidates := (invalidatingStable cfg own).keeps_invalidateStatement

/-- A call that closes a connection. -/
theorem keeps_closing (cfg : Config σ) (own : Option Handle) {call : CtCall}
    (closing : call.isClosing = true) (about : call.command? = none) :
    Keeps (Preserves (Leased own)) (StopsDisciplined own) (ctCall cfg call) := by
  refine keeps_noHandle cfg own .other (by rw [about]; rfl) fun handle => ?_
  rintro rfl
  cases closing

theorem reopenStable (cfg : Config σ) (own : Option Handle) :
    ReopenStable cfg (Preserves (Leased own)) (StopsDisciplined own) where
  toBaseStable := baseStable
  call world call isInit leased := by
    refine leased.call_noHandle .other ?_ fun handle => ?_
    · cases call <;> first | rfl | cases isInit
    · rintro rfl
      cases isInit
  connection _ _ _ _ _ leased := leased.of_eq rfl rfl (Nat.le_refl _) leased.numbered
  closes cmd := (baseStable).keeps_closing (keeps_cancelDisconnect cfg own cmd)
    (invalidatingStable cfg own).keeps_invalidateStatement (fun _ => keeps_closing cfg own)
    fun _ _ _ leased => leased.of_eq rfl rfl (Nat.le_refl _) leased.numbered
  lost _ _ leased := leased.of_eq rfl rfl (Nat.le_refl _) leased.numbered
  reconnected _ _ leased := leased.of_eq rfl rfl (Nat.le_refl _) leased.numbered
  aborts _ leased := leased.of_eq rfl rfl (Nat.le_refl _) leased.numbered
  nested keeps := by
    refine keeps_preserves.mpr fun world leased => (wp_nested _).mpr ?_
    refine wp_mono (keeps_preserves.mp keeps { world with depth := world.depth + 1 }
      (leased.of_eq rfl rfl (Nat.le_refl _) leased.numbered)) ?_ ?_ fun _ _ stopped => stopped
    · exact fun _ _ leased => leased.of_eq rfl rfl (Nat.le_refl _) leased.numbered
    · exact fun _ _ leased => leased.of_eq rfl rfl (Nat.le_refl _) leased.numbered

theorem keeps_topReconnect (cfg : Config σ) (own : Option Handle) (cmd : CommandId)
    (tryReconnect : Bool) :
    Keeps (Preserves (Leased own)) (StopsDisciplined own) (topReconnect cfg cmd tryReconnect) :=
  (reopenStable cfg own).keeps_closeAndReconnect
    (fun tryReconnect reconnects => (reopenStable cfg own).keeps_reopenConnection
      (fun _ leased => leased.of_eq rfl rfl (Nat.le_refl _) leased.numbered)
      (fun query args singleRow =>
        (executeStable cfg own).keeps_execReadOutput reconnects query args true true false
          singleRow)
      tryReconnect) cfg.fuel cmd tryReconnect

/-! ### Commit and rollback -/

/-- What `direct_execute` does with its own handle. -/
theorem keeps_directExecuteSend (cfg : Config σ) (handle : Handle) (sqlText : Text) :
    Keeps (Preserves (Leased (some handle))) (StopsDisciplined (some handle)) (do
      onThrow (directExecuteSend cfg handle sqlText) (do
        let _ ← ctCallAt cfg .directExecute (.cancel (some handle)))
      purgeMessages) := by
  have base : BaseStable (Preserves (Leased (σ := σ) (some handle)))
    (StopsDisciplined (some handle)) :=
    baseStable
  have calls : ∀ (site : Site) (call : CtCall), call.command? = some (some handle) →
      (∀ handle, call ≠ .cmdDrop handle) → Keeps (Preserves (Leased (some handle)))
        (StopsDisciplined (some handle)) (ctCallAt cfg site call) :=
    fun site call about drop world leased => leased.call_use none site about drop rfl
  exact keeps_bind (keeps_onThrow
    (base.keeps_directExecuteSend (fun site call _ _ about drop => calls site call about drop)
      sqlText)
    (keeps_bind (calls _ _ rfl (by simp)) fun _ => keeps_pure _)) fun _ => base.keeps_purgeMessages

/-- `direct_execute` gets a handle of its own, if one is allocated. -/
theorem own_allocated (leased : Leased none world) (cfg : Config σ) :
    Leased (world.newHandle cfg)
      { world.answered cfg.lib .directExecute (.cmdAlloc world.nextHandle)
      with nextHandle := world.nextHandle + 1 } := by
  refine leased.allocates cfg none rfl (touches_alloc cfg world .directExecute) ?_
    rfl leased.numbered
  funext index
  cases index with
  | none => simp [World.holder]
  | some id => simp [World.holder]

/-- `direct_execute` drops its own handle. -/
theorem own_dropped {handle : Handle} (leased : Leased (some handle) world) (cfg : Config σ) :
    Leased none (world.answered cfg.lib .directExecute (.cmdDrop (some handle))) := by
  refine leased.drops none (touches_answered cfg.lib .directExecute _) ?_ rfl leased.numbered
  funext index
  cases index with
  | none => simp [World.holder]
  | some id => simp [World.holder]

theorem keeps_directExecute (cfg : Config σ) (sqlText : Text) :
    Keeps (Preserves (Leased none)) (StopsDisciplined none) (directExecute cfg sqlText) := by
  refine keeps_preserves.mpr fun world leased => ?_
  rw [directExecute, wp_bind, wp_assert]
  refine ⟨fun _ => leased.assigned.disciplined, fun _ => ?_⟩
  rw [wp_bind, wp_get, wp_bind, wp_ctCallAt, wp_bind, wp_modify, wp_bind, wp_when]
  have allocated := leased.own_allocated cfg
  rw [World.newHandle] at allocated
  split at allocated
  · rename_i succeeded
    refine ⟨fun failed => absurd succeeded failed, fun _ => ?_⟩
    have sends := keeps_preserves.mp (keeps_directExecuteSend cfg world.nextHandle sqlText) _
      allocated
    refine wp_ensure _ _ |>.mpr (wp_mono sends ?_ ?_ fun _ _ disciplined => disciplined)
    · intro _ sent leased
      rw [wp_bind, wp_ctCallAt, wp_pure]
      exact leased.own_dropped cfg
    · intro _ sent leased
      rw [wp_bind, wp_ctCallAt, wp_pure]
      exact leased.own_dropped cfg
  · rename_i failed
    refine ⟨fun _ => ?_, fun succeeded => absurd failed succeeded⟩
    rw [wp_doException]
    exact allocated.of_eq rfl rfl (Nat.le_refl _) allocated.numbered

/-! ### Operations -/

theorem statementStable (cfg : Config σ) :
    StatementStable cfg (Preserves (Leased none)) (StopsDisciplined none) where
  toBaseStable := baseStable
  reading := readingStable cfg none
  wraps _ _ _ _ leased := leased.of_eq rfl rfl (Nat.le_refl _) leased.numbered

theorem partsStable (cfg : Config σ) :
    PartsStable cfg (Preserves (Leased none)) (StopsDisciplined none) where
  toStatementStable := statementStable cfg
  requests := (executeStable cfg none).keeps_execReadOutput (keeps_topReconnect cfg none)
  commits := keeps_bind (keeps_noHandle cfg none .other rfl (by simp)) fun _ =>
    keeps_directExecute cfg _
  rollbacks := keeps_bind (keeps_noHandle cfg none .other rfl (by simp)) fun _ =>
    keeps_directExecute cfg _
  nexts := (statementStable cfg).keeps_next
    ((executeStable cfg none).keeps_readNextResult (keeps_topReconnect cfg none))
  registers statement := baseStable.keeps_moduleWrap
    (fun _ _ leased => leased.of_eq rfl rfl (Nat.le_refl _) leased.numbered)
    ((invalidatingStable cfg none).keeps_registerStatement statement fun _ leased =>
      leased.of_eq rfl rfl (Nat.le_refl _) leased.numbered)
  closes _ := baseStable.keeps_close (invalidatingStable cfg none).unregister
    (fun _ leased => leased.of_eq rfl rfl (Nat.le_refl _) leased.numbered)
    (executeStable cfg none).keeps_destroyOption
  executes := (executeStable cfg none).keeps_exec
    (fun _ _ _ leased => leased.of_eq rfl rfl (Nat.le_refl _) leased.numbered)
    (keeps_topReconnect cfg none)

theorem openStable (cfg : Config σ) :
    OpenStable cfg (Preserves (Leased none)) (StopsDisciplined none) where
  toBaseStable := baseStable
  inits := (reopenStable cfg none).toSessionStable.keeps_init
    ((reopenStable cfg none).toSessionStable.keeps_setEncoding
      (fun _ leased => leased.of_eq rfl rfl (Nat.le_refl _) leased.numbered)
      fun query args singleRow => (executeStable cfg none).keeps_execReadOutput
        (keeps_topReconnect cfg none) query args true true false singleRow)
  destroys := baseStable.keeps_destroyConnection
    (invalidatingStable cfg none).keeps_invalidateStatement (fun _ => keeps_closing cfg none)
    fun _ leased => leased.assigned.disciplined
  connect _ leased := leased.of_eq rfl rfl (Nat.le_refl _) leased.numbered
  disconnect _ leased := leased.of_eq rfl rfl (Nat.le_refl _) leased.numbered
  setOpen _ _ leased := leased.of_eq rfl rfl (Nat.le_refl _) leased.numbered

theorem keeps_op (cfg : Config σ) (op : Op) :
    Keeps (Preserves (Leased none)) (StopsDisciplined none) (op.run cfg) :=
  (partsStable cfg).keeps_op (openStable cfg) op

/-- In every state that is reached, the handles were handled with discipline, and each one that is
outstanding is held by one command. -/
theorem of_reachable {allowed : World σ → Call → Prop} (reached : Reachable cfg allowed world) :
    Leased none world := by
  refine reached.kept (keeps_op cfg) (fun world start => ?_) fun _ _ leased =>
    leased.of_eq rfl rfl (Nat.le_refl _) leased.numbered
  have touches : world.touches = [] := by rw [World.touches, start.log, List.filterMap_nil]
  have holder : ∀ index, world.holder none index = none := by
    intro index
    cases index with
    | none => rfl
    | some id => simp [World.holder, start.commands]
  refine ⟨⟨?_, fun handle => ?_, fun first _ handle holds => ?_⟩, fun touch member => ?_,
    fun id cmd held => ?_⟩
  · rw [touches]
    trivial
  · rw [touches]
    refine iff_of_false List.not_mem_nil ?_
    rintro ⟨index, holds⟩
    exact absurd ((holder index).symm.trans holds) (by simp)
  · exact absurd ((holder first).symm.trans holds) (by simp)
  · rw [touches] at member
    cases member
  · rw [start.commands] at held
    cases held

end Leased

/-! ### Runs -/

/-- The entry is a call that allocated a handle. -/
def Entry.Allocates (handle : Handle) (entry : Entry) : Prop :=
  ∃ reply, entry.event = .call (.cmdAlloc handle) reply ∧ reply.code = .succeed

/-- The entry is a call about a handle. -/
def Entry.IsAbout (handle : Handle) (entry : Entry) : Prop :=
  ∃ call reply, entry.event = .call call reply ∧ call.command? = some (some handle)

/-- The entry is a call that dropped a handle. -/
def Entry.Drops (handle : Handle) (entry : Entry) : Prop :=
  ∃ reply, entry.event = .call (.cmdDrop (some handle)) reply

/-- Every call about a handle comes after the only call that allocated it, and before any call that
dropped it. The log has its newest entry first. -/
def HandlesInOrder (log : List Entry) : Prop :=
  ∀ later entry earlier handle, log = later ++ entry :: earlier →
    (entry.IsAbout handle →
      (∃ before ∈ earlier, before.Allocates handle) ∧ ∀ before ∈ earlier, ¬before.Drops handle) ∧
    (entry.Allocates handle → ∀ before ∈ earlier, ¬before.Allocates handle)

namespace Entry

variable {entry : Entry} {handle : Handle}

theorem touch_acquire_iff : entry.touch = some (.acquire handle) ↔ entry.Allocates handle := by
  constructor
  · intro touch
    rw [Entry.touch] at touch
    split at touch
    · rename_i allocated reply event
      split at touch
      · rename_i succeeded
        cases touch
        exact ⟨reply, event, succeeded⟩
      · cases touch
    · simp at touch
    · simp at touch
    · cases touch
  · rintro ⟨reply, event, succeeded⟩
    simp [Entry.touch, event, succeeded]

theorem touch_release_iff : entry.touch = some (.release handle) ↔ entry.Drops handle := by
  constructor
  · intro touch
    rw [Entry.touch] at touch
    split at touch
    · split at touch
      · cases touch
      · cases touch
    · rename_i dropped reply event
      simp only [Option.map_eq_some_iff, Touch.release.injEq, exists_eq_right] at touch
      exact ⟨reply, touch ▸ event⟩
    · simp at touch
    · cases touch
  · rintro ⟨reply, event⟩
    simp [Entry.touch, event]

/-- A call about a handle touches it, and does not acquire it. -/
theorem IsAbout.touch (about : entry.IsAbout handle) :
    ∃ touch, entry.touch = some touch ∧ touch.resource = handle ∧ touch ≠ .acquire handle := by
  obtain ⟨call, reply, event, about⟩ := about
  cases call with
  | cmdAlloc other => cases about
  | cmdDrop dropped =>
    cases about
    exact ⟨.release handle, by simp [Entry.touch, event], rfl, by simp⟩
  | _ => exact ⟨.use handle, by simp [Entry.touch, event, about], rfl, by simp⟩

end Entry

theorem handlesInOrder_of_disciplined {log : List Entry}
    (disciplined : Disciplined (log.filterMap Entry.touch)) : HandlesInOrder log := by
  intro later entry earlier handle same
  have member : ∀ {touch : Touch Handle}, touch ∈ earlier.filterMap Entry.touch ↔
      ∃ before ∈ earlier, before.touch = some touch := List.mem_filterMap
  rw [same, List.filterMap_append] at disciplined
  constructor
  · intro about
    obtain ⟨touch, touches, rfl, notAcquire⟩ := about.touch
    rw [List.filterMap_cons_some touches] at disciplined
    obtain ⟨acquired, unreleased⟩ := disciplined.held_before notAcquire
    obtain ⟨before, earlier', allocated⟩ := member.mp acquired
    refine ⟨⟨before, earlier', Entry.touch_acquire_iff.mp allocated⟩,
      fun other isEarlier drops => ?_⟩
    exact unreleased (member.mpr ⟨other, isEarlier, Entry.touch_release_iff.mpr drops⟩)
  · intro allocates before isEarlier allocated
    rw [List.filterMap_cons_some (Entry.touch_acquire_iff.mpr allocates)] at disciplined
    exact disciplined.allowed _
      (member.mpr ⟨before, isEarlier, Entry.touch_acquire_iff.mpr allocated⟩) rfl

/-- In every run, for every ct-lib and however the last call ends, a command handle is used only
between the call that allocated it and the one that dropped it, and it is dropped at most once. -/
theorem handlesInOrder_of_run {allowed : World σ → Call → Prop}
    (reached : Reachable cfg allowed world)
    (call : Call) : HandlesInOrder (call.run cfg world).2.log := by
  have leased : Leased none (world.calling call) :=
    (Leased.of_reachable reached).of_eq rfl rfl (Nat.le_refl _)
      (Leased.of_reachable reached).numbered
  have run := keeps_preserves.mp (Leased.keeps_op cfg call.op) _ leased
  obtain ⟨returned, thrown, halted⟩ := wp_iff_forall.mp run
  rcases ended : call.run cfg world with ⟨value | error | reason, last⟩
  · exact handlesInOrder_of_disciplined (returned value last ended).assigned.disciplined
  · exact handlesInOrder_of_disciplined (thrown error last ended).assigned.disciplined
  · exact handlesInOrder_of_disciplined (halted reason last ended)

/-- A commit that a server carries out. -/
def commitScript : List Reply :=
  [{}, {}, {}, {}, { resultType := .cmdSucceed }, { code := .endResults }, {}]

theorem handlesInOrder_of_run_commit :
    HandlesInOrder
      ((⟨[], .datasource .commit⟩ : Call).run (Config.sample (CtLib.scripted false) true 9)
      (World.opened commitScript)).2.log ∧
    ((⟨[], .datasource .commit⟩ : Call).run (Config.sample (CtLib.scripted false) true 9)
      (World.opened commitScript)).2.touches =
        [.release 0, .use 0, .use 0, .use 0, .use 0, .acquire 0] := by
  have reached : Reachable (Config.sample (CtLib.scripted false) true 9) (fun _ _ => True)
      (World.opened commitScript) := .start ⟨rfl, rfl, rfl, rfl⟩
  exact ⟨handlesInOrder_of_run reached _, by decide +kernel⟩

end Sybase
