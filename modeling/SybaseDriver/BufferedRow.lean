/-
This file proves whose row a statement delivers. A row that `next` has fetched ahead waits
in the statement until `fetch_row` takes it, and executing the statement again leaves it
there. While a statement is executed only with no row waiting, each row that is delivered
was fetched from the command of the latest execution.
-/

import SybaseDriver.FetchOrder

namespace Sybase

open Program Connection Statement

variable {σ : Type} {cfg : Config σ} {start world middle after : World σ} {statement : StatementId}
  {id : CommandId}

/-! ### What a request carries over -/

/-- Steps that fetch no row ahead: the log grows, a handle that a command holds is its own or a new
one, and the rows that wait in statements are those that waited before. -/
structure Carries (world after : World σ) : Prop where
  log : world.log <:+ after.log
  nextHandle : world.nextHandle ≤ after.nextHandle
  handles : ∀ id cmd handle, after.commands id = some cmd → cmd.mCmd = some handle →
    (∃ cmd', world.commands id = some cmd' ∧ cmd'.mCmd = some handle) ∨ world.nextHandle ≤ handle
  rows : ∀ statement wrap row, after.statements statement = some wrap → wrap.m.execRes = some row →
    ∃ wrap', world.statements statement = some wrap' ∧ wrap'.m.execRes = some row

namespace Carries

theorem refl (world : World σ) : Carries world world where
  log := List.suffix_rfl
  nextHandle := Nat.le_refl _
  handles _ cmd _ held same := .inl ⟨cmd, held, same⟩
  rows _ wrap _ held same := ⟨wrap, held, same⟩

theorem trans (first : Carries world middle) (second : Carries middle after) :
    Carries world after where
  log := first.log.trans second.log
  nextHandle := Nat.le_trans first.nextHandle second.nextHandle
  handles id cmd handle held same := by
    rcases second.handles id cmd handle held same with ⟨cmd', held', same'⟩ | later
    · exact first.handles id cmd' handle held' same'
    · exact .inr (Nat.le_trans first.nextHandle later)
  rows statement wrap row held same := by
    obtain ⟨wrap', held', same'⟩ := second.rows statement wrap row held same
    exact first.rows statement wrap' row held' same'

instance : Std.Refl (Carries (σ := σ)) := ⟨refl⟩

instance : IsTrans (World σ) Carries := ⟨fun _ _ _ => trans⟩

/-- A change that leaves commands, handles and statements. -/
theorem of_log (log : world.log <:+ after.log) (nextHandle : after.nextHandle = world.nextHandle)
    (commands : after.commands = world.commands)
    (statements : after.statements = world.statements) :
    Carries world after where
  log := log
  nextHandle := Nat.le_of_eq nextHandle.symm
  handles _ cmd _ held same := .inl ⟨cmd, commands ▸ held, same⟩
  rows _ wrap _ held same := ⟨wrap, statements ▸ held, same⟩

theorem of_call (lib : CtLib σ) (site : Site) (call : CtCall) :
    Carries world (world.answered lib site call) := of_log (List.suffix_cons _ _) rfl rfl rfl

/-- A change of a command that keeps its handle or gives it up. -/
theorem of_change {change : Command → Command}
    (kept : ∀ cmd, (change cmd).mCmd = cmd.mCmd ∨ (change cmd).mCmd = none) :
    Carries world { world with
      commands := Function.update world.commands id ((world.commands id).map change) } where
  log := List.suffix_rfl
  nextHandle := Nat.le_refl _
  handles other cmd handle held same := by
    by_cases own : other = id
    · subst own
      simp only [Function.update_self, Option.map_eq_some_iff] at held
      obtain ⟨cmd', held', rfl⟩ := held
      rcases kept cmd' with unchanged | none
      · exact .inl ⟨cmd', held', unchanged.symm.trans same⟩
      · exact nomatch none.symm.trans same
    · exact .inl ⟨cmd, by simpa [own] using held, same⟩
  rows _ wrap _ held same := ⟨wrap, held, same⟩

theorem of_remove (id : CommandId) : Carries world { world with
    commands := Function.update world.commands id none } where
  log := List.suffix_rfl
  nextHandle := Nat.le_refl _
  handles other cmd handle held same := by
    by_cases own : other = id
    · subst own
      simp at held
    · exact .inl ⟨cmd, by simpa [own] using held, same⟩
  rows _ wrap _ held same := ⟨wrap, held, same⟩

/-- A change of a statement in which a row waits only if it waited before. -/
theorem of_statement {change : ModuleWrap → ModuleWrap}
    (kept : ∀ wrap row, (change wrap).m.execRes = some row → wrap.m.execRes = some row) :
    Carries world { world with
      statements := Function.update world.statements statement
        ((world.statements statement).map change) } where
  log := List.suffix_rfl
  nextHandle := Nat.le_refl _
  handles _ cmd _ held same := .inl ⟨cmd, held, same⟩
  rows other wrap row held same := by
    by_cases own : other = statement
    · subst own
      simp only [Function.update_self, Option.map_eq_some_iff] at held
      obtain ⟨wrap', held', rfl⟩ := held
      exact ⟨wrap', held', kept wrap' row same⟩
    · exact ⟨wrap, by simpa [own] using held, same⟩

theorem of_allocated (cfg : Config σ) (world : World σ) : Carries world (world.allocated cfg) where
  log := List.suffix_cons _ _
  nextHandle := Nat.le_succ _
  handles id cmd handle held same := by
    by_cases own : id = world.nextCommand
    · subst own
      have made : Function.update world.commands world.nextCommand
          (some ⟨none, world.newHandle cfg, -1, .resNone, ⟨true, []⟩, []⟩) world.nextCommand =
            some cmd := held
      rw [Function.update_self] at made
      cases made
      rw [World.newHandle] at same
      split at same
      · cases same
        exact .inr (Nat.le_refl _)
      · cases same
    · have other : world.commands id = some cmd := (Function.update_of_ne own _ _).symm.trans held
      exact .inl ⟨cmd, other, same⟩
  rows _ wrap _ held same := ⟨wrap, held, same⟩

theorem closeStable (cfg : Config σ) : CloseStable cfg Carries StopsAnyhow where
  raise _ _ _ := of_log List.suffix_rfl rfl rfl rfl
  discard _ := of_log List.suffix_rfl rfl rfl rfl
  halts _ _ _ := trivial
  close _ _ _ _ _ := of_call _ _ _
  disconnect _ _ := of_change fun _ => .inr rfl
  reset _ _ _ := of_log List.suffix_rfl rfl rfl rfl
  noted _ _ := of_log (List.suffix_cons _ _) rfl rfl rfl
  invalid _ _ := of_statement fun _ _ same => same
  unregister _ := of_log List.suffix_rfl rfl rfl rfl

/-- A request fetches no row ahead. -/
theorem requestStable (cfg : Config σ) : RequestStable cfg Carries StopsAnyhow where
  raise _ _ _ := of_log List.suffix_rfl rfl rfl rfl
  discard _ := of_log List.suffix_rfl rfl rfl rfl
  halts _ _ _ := trivial
  call _ _ _ := of_call _ _ _
  connection _ _ _ _ _ := of_log List.suffix_rfl rfl rfl rfl
  reading _ :=
    { raise := fun _ _ _ => of_log List.suffix_rfl rfl rfl rfl
      discard := fun _ => of_log List.suffix_rfl rfl rfl rfl
      halts := fun _ _ _ => trivial
      call := fun _ _ _ _ _ _ => of_call _ _ _
      value := fun _ _ _ => of_log (List.suffix_cons _ _) rfl rfl rfl
      modify := fun _ _ kept => of_change fun cmd => .inl (kept cmd).1 }
  binding _ :=
    { raise := fun _ _ _ => of_log List.suffix_rfl rfl rfl rfl
      discard := fun _ => of_log List.suffix_rfl rfl rfl rfl
      halts := fun _ _ _ => trivial
      bind := fun _ _ _ => of_call _ _ _
      query := fun _ _ => of_change fun _ => .inl rfl }
  destroying id :=
    { raise := fun _ _ _ => of_log List.suffix_rfl rfl rfl rfl
      discard := fun _ => of_log List.suffix_rfl rfl rfl rfl
      halts := fun _ _ _ => trivial
      clear := fun _ _ _ => of_call _ _ _
      terminated := fun _ _ _ => trivial
      drop := fun _ _ => of_call _ _ _
      handle := fun _ => of_change fun _ => .inr rfl
      remove := fun _ => of_remove id }
  creates world := wp_create.mpr (of_allocated cfg world)
  holds _ _ _ := of_statement fun _ _ same => same
  asks _ _ _ := of_call _ _ _
  invalidates := (closeStable cfg).keeps_invalidateStatement
  closes := (closeStable cfg).keeps_closeConnection
  notes _ _ _ := of_log (List.suffix_cons _ _) rfl rfl rfl
  aborts _ := of_log List.suffix_rfl rfl rfl rfl
  nested keeps world := by
    refine (wp_nested _).mpr (wp_mono (keeps { world with depth := world.depth + 1 })
      (fun _ _ kept => ?_) (fun _ _ kept => ?_) fun _ _ _ => ⟨world, refl world, trivial⟩)
    · exact ⟨kept.log, kept.nextHandle, kept.handles, kept.rows⟩
    · exact ⟨kept.log, kept.nextHandle, kept.handles, kept.rows⟩

theorem keeps_topReconnect (cfg : Config σ) (cmd : CommandId) (tryReconnect : Bool) :
    Keeps Carries StopsAnyhow (topReconnect cfg cmd tryReconnect) :=
  (requestStable cfg).keeps_closeAndReconnect
    (fun tryReconnect reconnects => (requestStable cfg).keeps_reopenConnection
      (fun _ => of_log List.suffix_rfl rfl rfl rfl) reconnects tryReconnect) cfg.fuel
        cmd tryReconnect

theorem keeps_moduleWrap (cfg : Config σ) (statement : StatementId) :
    Keeps Carries StopsAnyhow (DBModuleWrap.moduleWrap cfg statement) := by
  have stable := requestStable cfg
  refine keeps_bind keeps_get fun world => ?_
  split
  · exact keeps_pure _
  · refine keeps_bind (keeps_modify fun world => ⟨List.suffix_rfl, Nat.le_refl _,
      fun _ cmd _ held same => .inl ⟨cmd, held, same⟩, fun other wrap row held waits => ?_⟩)
        fun _ =>
        keeps_bind stable.keeps_checkOpen fun _ => keeps_registerStatement
          (closeStable cfg) statement
          fun _ => of_log List.suffix_rfl rfl rfl rfl
    by_cases own : other = statement
    · subst own
      -- a new statement has no row that waits
      obtain rfl : DBModuleWrap.create = wrap := by simpa using held
      exact nomatch waits
    · exact ⟨wrap, by simpa [own] using held, waits⟩

theorem keeps_execOp (cfg : Config σ) (statement : StatementId) :
    Keeps Carries StopsAnyhow (StatementOp.exec.run cfg statement) := by
  have stable := requestStable cfg
  have executes : Keeps Carries StopsAnyhow (DBModuleWrap.execBody cfg statement) :=
    keeps_bind (keeps_moduleWrap cfg statement) fun _ =>
      keeps_bind (stable.keeps_getModuleWrap statement) fun _ =>
        stable.keeps_exec (keeps_topReconnect cfg) _ _ _ _
  refine keeps_bind (keeps_tryCatch executes fun error => ?_) fun _ => keeps_pure _
  exact keeps_bind (keeps_bind keeps_isException fun _ => keeps_when _ fun _ =>
    stable.keeps_raiseException _ _) fun _ => keeps_pure _

end Carries

/-! ### Fetched rows -/

/-- A row that was fetched since a state, from a command that was sent since: it is what a run of
`command::fetch_row` returned, on the command that the statement held, whose handle is new, and the
calls of this run are in the log. -/
def FetchedSince (cfg : Config σ) (statement : StatementId) (start world : World σ) (row : Hash) :
    Prop :=
  ∃ wrap id cmd handle before fetched, before.statements statement = some wrap ∧
    wrap.m.context = some id ∧ before.commands id = some cmd ∧ cmd.mCmd = some handle ∧
    start.nextHandle ≤ handle ∧ start.log <:+ before.log ∧
    Command.fetchRow cfg id none before = (.ok (some row), fetched) ∧ fetched.log <:+ world.log

theorem FetchedSince.mono {row : Hash} (fetched : FetchedSince cfg statement start world row)
    (later : world.log <:+ after.log) : FetchedSince cfg statement start after row := by
  obtain ⟨wrap, id, cmd, handle, before, last, held, context, there, same, new, since, ran,
      within⟩ :=
    fetched
  exact ⟨wrap, id, cmd, handle, before, last, held, context, there, same, new, since, ran,
    within.trans later⟩

/-- What a fetch of a row leaves in the log: the `ct_fetch` on the handle of the command. -/
def Fetches (id : CommandId) (world after : World σ) : Prop :=
  ∃ cmd handle, world.commands id = some cmd ∧ cmd.mCmd = some handle ∧
    ∃ entry reply later earlier, entry.event = .call (.fetch (some handle)) reply ∧
      after.log = later ++ entry :: (earlier ++ world.log)

/-- `fetch_row_into_buffers` that returns true has fetched a row. -/
theorem wp_fetchRowIntoBuffers_fetches (id : CommandId) (world : World σ) :
    wp (Command.fetchRowIntoBuffers cfg id)
      (fun more after => more = true → Fetches id world after) (fun _ _ => True) (fun _ _ => True)
      world := by
  rw [Command.fetchRowIntoBuffers, wp_bind, wp_getCommand]
  refine ⟨fun cmd held => ?_, fun _ => trivial⟩
  rw [wp_bind, wp_ctCall]
  cases same : cmd.mCmd with
  | none => exact wp_bind_any fun _ _ => nofun
  | some handle =>
    have fetches : Fetches id world (world.answered cfg.lib .other (.fetch (some handle))) :=
      ⟨cmd, handle, held, same, _, _, [], [], rfl, rfl⟩
    split
    · rw [wp_bind, wp_modifyCommand, wp_bind, wp_when]
      exact ⟨fun _ => trivial, fun _ _ => fetches⟩
    · exact wp_bind_any fun _ _ => nofun
    · exact wp_bind_any fun _ _ => nofun
    · exact wp_bind_any fun _ _ => nofun

/-- A run of `command::fetch_row` that returns a row has fetched it. -/
theorem fetchRow_some {ph : Option (List Text)} {row : Hash}
    (ran : Command.fetchRow cfg id ph world = (.ok (some row), after)) :
    Fetches id world after := by
  have reading := Reads.readingStable cfg id
  have fetches : wp (Command.fetchRow cfg id ph)
      (fun h after => h.isSome = true → Fetches id world after) (fun _ _ => True) (fun _ _ => True)
      world := by
    rw [Command.fetchRow, wp_bind]
    refine wp_mono (reading.describing.keeps_ensureColinfo world) (fun failed described read => ?_)
      (fun _ _ _ => trivial) fun _ _ _ => trivial
    split
    · exact nofun
    · rw [wp_bind]
      refine wp_mono_ok (wp_fetchRowIntoBuffers_fetches id described) fun more fetched fetches => ?_
      split
      · rename_i isMore
        refine wp_mono (reading.describing.keeps_outputBuffersToHash ph fetched)
          (fun _ last written _ => ?_) (fun _ _ _ => trivial) fun _ _ _ => trivial
        obtain ⟨cmd, handle, held, same, entry, reply, later, earlier, isFetch, log⟩ :=
          fetches isMore
        obtain ⟨described', describedLog, -⟩ := read.log
        obtain ⟨written', writtenLog, -⟩ := written.log
        cases there : world.commands id with
        | none => exact absurd held (by simp [read.gone there])
        | some own =>
          obtain ⟨cmd', held', handles, -⟩ := read.own own there
          cases held.symm.trans held'
          refine ⟨own, handle, there, handles.symm.trans same, entry, reply, written' ++ later,
            earlier ++ described', isFetch, ?_⟩
          rw [writtenLog, log, describedLog, List.append_assoc, List.append_assoc]
      · exact nofun
  exact (wp_iff_forall.mp fetches).1 _ _ ran rfl

/-! ### The command of the latest execution -/

/-- No row is fetched any more from a command with such a `lastRes`: it waits for no result, and its
result has no rows. -/
def Spent (res : ResType) : Prop := ¬res.waits ∧ expectRow res = false

/-- Rows that are fetched from a command belong to the results of the execution that began in a
state: its handle is new since, or none are fetched. -/
def Owned (start : World σ) (id : CommandId) (world : World σ) : Prop :=
  (∀ cmd, world.commands id = some cmd → Spent cmd.lastRes) ∨
    ∀ cmd handle, world.commands id = some cmd → cmd.mCmd = some handle → start.nextHandle ≤ handle

/-- What is known of a statement since its latest execution began: its command is of this execution,
and a row that waits was fetched since. -/
structure Delivering (cfg : Config σ) (statement : StatementId) (start world : World σ) : Prop where
  present : (world.statements statement).isSome
  log : start.log <:+ world.log
  nextHandle : start.nextHandle ≤ world.nextHandle
  owned : ∀ wrap, world.statements statement = some wrap → wrap.m.valid = true →
    ∀ id, wrap.m.context = some id → id < world.nextCommand ∧ Owned start id world
  row : ∀ wrap row, world.statements statement = some wrap → wrap.m.execRes = some row →
    FetchedSince cfg statement start world row

/-- Steps that keep the command of the statement, and keep it of the latest execution. -/
theorem Delivering.of_spares (delivering : Delivering cfg statement start world)
    (carries : Carries world after) (spares : Spares 0 world after)
    (owned : ∀ wrap, world.statements statement = some wrap → wrap.m.valid = true →
      ∀ id, wrap.m.context = some id → id < after.nextCommand ∧ Owned start id after) :
    Delivering cfg statement start after where
  present := (spares.present statement).trans delivering.present
  log := delivering.log.trans carries.log
  nextHandle := Nat.le_trans delivering.nextHandle carries.nextHandle
  owned wrap held valid id context := by
    obtain ⟨wrap', held', same, valid'⟩ := spares.statements statement wrap held
    exact owned wrap' held' (valid' valid) id (same.symm.trans context)
  row wrap row held same := by
    obtain ⟨wrap', held', same'⟩ := carries.rows statement wrap row held same
    exact (delivering.row wrap' row held' same').mono carries.log

/-- A command that is not used up stays of the latest execution. -/
theorem Carries.renews (carries : Carries world after) (later : start.nextHandle ≤ world.nextHandle)
    (renews : ∀ cmd handle, world.commands id = some cmd → cmd.mCmd = some handle →
      start.nextHandle ≤ handle) :
    ∀ cmd handle, after.commands id = some cmd → cmd.mCmd = some handle →
      start.nextHandle ≤ handle := by
  intro cmd handle held same
  rcases carries.handles id cmd handle held same with ⟨cmd', held', same'⟩ | new
  · exact renews cmd' handle held' same'
  · exact Nat.le_trans later new

/-- Reading from a command that is not there is undefined. -/
theorem wp_readNextResult_absent (absent : world.commands id = none) (quiet : world.xsink = []) :
    wp (Command.readNextResult cfg id) (fun _ _ => False) (fun _ _ => False) (fun _ _ => True)
      world := by
  rw [Command.readNextResult]
  cases cfg.fuel with
  | zero => trivial
  | succ bound =>
    rw [wp_iterate_succ, wp_bind, Command.readNextResult1, wp_bind, wp_isException, quiet,
      if_neg (by simp), wp_bind, wp_getCommand]
    exact ⟨fun cmd held => absurd held (by simp [absent]), fun _ => trivial⟩

/-- Reading on leaves a command used up that is. -/
theorem wp_readNextResult_spent {reconnect : Reconnect σ}
    (spent : ∀ cmd, world.commands id = some cmd → Spent cmd.lastRes) :
    wp (Connection.readNextResult cfg reconnect id)
      (fun res after => expectRow res = false ∧
        ∀ cmd, after.commands id = some cmd → Spent cmd.lastRes)
      (fun _ _ => False) (fun _ _ => True) world := by
  rw [Connection.readNextResult, wp_bind, wp_isException]
  split
  · exact ⟨rfl, spent⟩
  · rename_i unraised
    have quiet : world.xsink = [] := by simpa using unraised
    rw [wp_bind]
    cases held : world.commands id with
    | none =>
      exact wp_mono (wp_readNextResult_absent held quiet) (fun _ _ impossible => impossible.elim)
        (fun _ _ impossible => impossible) fun _ _ _ => trivial
    | some cmd =>
      have isSpent := spent cmd held
      have stays : ReachesBy FetchRule (Command.readNextResult cfg id) _ (fun _ => False) world :=
        reaches_readNextResult_stays isSpent.1 ⟨cmd, held, rfl, rfl, rfl⟩ quiet
      refine wp_mono stays (fun result after post => ?_) (fun _ _ post => post.2.elim)
        fun _ _ _ => trivial
      obtain ⟨-, rfl, other, held', -, last, -⟩ := post
      refine ⟨isSpent.2, fun cmd' held'' => ?_⟩
      cases held'.symm.trans held''
      rwa [last]

section Methods

variable {wrap : ModuleWrap}

/-- The next result that is read belongs to the latest execution if it has rows. -/
theorem wp_readNextResult_delivering (delivering : Delivering cfg statement start world)
    (held : world.statements statement = some wrap) (valid : wrap.m.valid = true)
    (context : wrap.m.context = some id) :
    wp (Connection.readNextResult cfg (topReconnect cfg) id)
      (fun res after => Delivering cfg statement start after ∧
        (∀ wrap, after.statements statement = some wrap → wrap.m.context = some id) ∧
        (expectRow res = true → ∀ cmd handle, after.commands id = some cmd →
          cmd.mCmd = some handle → start.nextHandle ≤ handle))
      (fun _ => Delivering cfg statement start) (fun _ _ => True) world := by
  obtain ⟨below, owned⟩ := delivering.owned wrap held valid id context
  have untracked : IsTracked (fun _ => false) id world := ⟨below, by simp [Tracks]⟩
  have spares : Reaches (Spares 0) (StopsObeying FetchRule)
      (Connection.readNextResult cfg (topReconnect cfg) id) _ _ world :=
    (reaches_connectionReadNextResult (keeps_closeAndReconnect_sparing cfg cfg.fuel) (by simp)
      (Nat.zero_le id) untracked).related
  have carries := (Carries.requestStable cfg).toSendStable.keeps_readNextResult
    (Carries.keeps_topReconnect cfg) id
    world
  have frame := Program.wp_and spares carries
  have sameContext : ∀ after, Spares 0 world after →
      ∀ wrap, after.statements statement = some wrap →
      wrap.m.context = some id := fun after spares wrap' held' => by
    obtain ⟨wrap'', held'', same, -⟩ := spares.statements statement wrap' held'
    cases held.symm.trans held''
    exact same.trans context
  have keeps : ∀ after, Carries world after → Spares 0 world after → id < after.nextCommand →
      Owned start id after → Delivering cfg statement start after := fun after carries spares below
      owned => delivering.of_spares carries spares fun wrap' held' _ id' context' => by
    cases held.symm.trans held'
    cases context.symm.trans context'
    exact ⟨below, owned⟩
  rcases owned with spent | renews
  · refine wp_mono (Program.wp_and frame (wp_readNextResult_spent spent)) ?_ ?_ fun _ _ _ => trivial
    · rintro res after ⟨⟨⟨-, spares, ⟨below, -⟩, -⟩, carries⟩, rowless, spent⟩
      exact ⟨keeps after carries spares below (.inl spent), sameContext after spares,
        fun expected => absurd (expected.symm.trans rowless) (by simp)⟩
    · rintro _ after ⟨-, impossible⟩
      exact impossible.elim
  · refine wp_mono frame ?_ ?_ fun _ _ _ => trivial
    · rintro res after ⟨⟨-, spares, ⟨below, -⟩, -⟩, carries⟩
      have renews := carries.renews delivering.nextHandle renews
      exact ⟨keeps after carries spares below (.inr renews), sameContext after spares,
        fun _ => renews⟩
    · rintro _ after ⟨⟨-, spares, below, -⟩, carries⟩
      exact keeps after carries spares below (.inr (carries.renews delivering.nextHandle renews))

/-- A row is fetched ahead. -/
theorem wp_fetchAhead_delivering (delivering : Delivering cfg statement start world)
    (holds : ∀ wrap, world.statements statement = some wrap → wrap.m.context = some id)
    (renews : ∀ cmd handle, world.commands id = some cmd → cmd.mCmd = some handle →
      start.nextHandle ≤ handle) :
    wp (fetchAhead cfg statement) (fun _ => Delivering cfg statement start)
      (fun _ => Delivering cfg statement start) (fun _ _ => True) world := by
  obtain ⟨wrap, held⟩ := Option.isSome_iff_exists.mp delivering.present
  rw [fetchAhead, wp_bind, wp_getModuleWrap_some held, wp_when]
  refine ⟨fun _ => ?_, fun _ => delivering⟩
  rw [wp_bind, getContext, wp_bind, wp_getModuleWrap_some held, holds wrap held, wp_pure, wp_bind]
  have reads := (Reads.readingStable cfg id).keeps_fetchRow none world
  have kept : ∀ after, Reads id world after → Delivering cfg statement start after := by
    intro after read
    obtain ⟨new, log, -⟩ := read.log
    have later : world.log <:+ after.log := ⟨new, log.symm⟩
    refine ⟨read.statements ▸ delivering.present, delivering.log.trans later,
      read.nextHandle ▸ delivering.nextHandle, fun wrap' held' valid id' context => ?_,
      fun wrap' row held' waits => ?_⟩
    · rw [read.statements] at held'
      obtain ⟨below, -⟩ := delivering.owned wrap' held' valid id' context
      cases (holds wrap' held').symm.trans context
      refine ⟨read.nextCommand ▸ below, .inr fun cmd handle there same => ?_⟩
      cases before : world.commands id with
      | none => exact absurd there (by simp [read.gone before])
      | some own =>
        obtain ⟨cmd', there', handles, -⟩ := read.own own before
        cases there.symm.trans there'
        exact renews own handle before (handles.symm.trans same)
    · rw [read.statements] at held'
      exact (delivering.row wrap' row held' waits).mono later
  refine wp_iff_forall.mpr ⟨fun h after ran => ?_, fun _ after ran => ?_, fun _ _ _ => trivial⟩
  · have read := (wp_iff_forall.mp reads).1 _ _ ran
    have delivers := kept after read
    refine ⟨?_, delivers.log, delivers.nextHandle, ?_, ?_⟩
    · simpa [Function.update_self] using delivers.present
    · intro wrap' held' valid id' context
      obtain ⟨wrap'', held'', rfl⟩ : ∃ wrap'', after.statements statement = some wrap'' ∧
          { wrap'' with m := { wrap''.m with execRes := h } } = wrap' := by
        simpa [Function.update_self] using held'
      exact delivers.owned wrap'' held'' valid id' context
    · intro wrap' row held' waits
      obtain ⟨wrap'', held'', rfl⟩ : ∃ wrap'', after.statements statement = some wrap'' ∧
          { wrap'' with m := { wrap''.m with execRes := h } } = wrap' := by
        simpa [Function.update_self] using held'
      obtain rfl : h = some row := waits
      obtain ⟨cmd, handle, there, same, -⟩ := fetchRow_some ran
      exact ⟨wrap, id, cmd, handle, world, after, held, holds wrap held, there, same,
        renews cmd handle there same, delivering.log, ran, List.suffix_rfl⟩
  · exact kept after ((wp_iff_forall.mp reads).2.1 _ _ ran)

end Methods

section Methods

/-- The log grows in a method of which something else is known. -/
theorem reaches_extends {α : Type} {program : Driver σ α} {onOk : α → World σ → Prop}
    {onThrow : World σ → Prop} (keeps : Keeps Extends StopsAtClear program)
    (post : wp program onOk (fun _ => onThrow) (fun _ _ => True) world) :
    Reaches Extends StopsAtClear program onOk onThrow world :=
  wp_mono (Program.wp_and (keeps world) post) (fun _ _ both => both) (fun _ _ both => both)
    fun _ _ both => both.1

theorem Delivering.raised (delivering : Delivering cfg statement start world)
    (xsink : List QoreException) : Delivering cfg statement start { world with xsink := xsink } :=
  ⟨delivering.present, delivering.log, delivering.nextHandle, delivering.owned, delivering.row⟩

/-- `next` is true only where a row waits. -/
theorem reaches_next_delivering (delivering : Delivering cfg statement start world) :
    Reaches Extends StopsAtClear (Statement.next cfg (topReconnect cfg) statement)
      (fun more after => Delivering cfg statement start after ∧ (more = true →
        ∃ wrap row, after.statements statement = some wrap ∧ wrap.m.execRes = some row))
      (Delivering cfg statement start) world := by
  have stable := Extends.stable cfg
  have base := stable.toBaseStable
  have reconnects := Extends.keeps_closeAndReconnect cfg cfg.fuel
  refine reaches_ifValid base delivering.present
    (fun _ _ _ _ => ⟨delivering.raised _, fun more => nomatch more⟩) fun wrap held valid =>
      .checkOpen base (.getModuleWrap held ?_)
  cases context : wrap.m.context with
  | none =>
    have raised : Reaches Extends StopsAtClear
        (Statement.readNextResult cfg (topReconnect cfg) none)
        (fun _ after => world = after ∧ world.xsink.isEmpty = false)
        (Delivering cfg statement start) world := by
      refine .isException ?_
      split
      · rename_i raised
        exact .pure ⟨rfl, by simpa using raised⟩
      · exact .halt (.inl ⟨by simp, rfl⟩)
    refine raised.bind ?_
    rintro _ _ ⟨rfl, raised⟩
    refine .isException ?_
    rw [raised]
    exact .pure ⟨delivering, fun more => nomatch more⟩
  | some id =>
    have reads := reaches_extends (stable.keeps_readNextResult reconnects id)
      (wp_readNextResult_delivering delivering held valid context)
    refine Reaches.bind reads ?_
    rintro res middle ⟨delivering, holds, renews⟩
    refine .isException ?_
    split
    · exact .pure ⟨delivering, fun more => nomatch more⟩
    · have keeps : Keeps Extends StopsAtClear (fetchAhead cfg statement) :=
        stable.methodStable.keeps_fetchAhead statement
      refine (Reaches.when (fun expected => reaches_extends keeps
        (wp_fetchAhead_delivering delivering holds (renews expected)))
          fun _ => delivering).bind fun _ after delivering => ?_
      obtain ⟨wrap, held⟩ := Option.isSome_iff_exists.mp delivering.present
      exact .getModuleWrap held
        (.pure ⟨delivering, fun waits => ⟨wrap, _, held, (Option.some_get waits).symm⟩⟩)

/-- `fetch_row` hands out the row that waits. -/
theorem reaches_fetchRow_delivering (delivering : Delivering cfg statement start world) :
    Reaches Extends StopsAtClear (Statement.fetchRow statement)
      (fun h after => Delivering cfg statement start after ∧
        ∀ row ∈ h, FetchedSince cfg statement start after row)
      (Delivering cfg statement start) world := by
  obtain ⟨wrap, held⟩ := Option.isSome_iff_exists.mp delivering.present
  refine .getModuleWrap held (.modify (Extends.of_eq rfl rfl) (.pure ⟨⟨?_, delivering.log,
    delivering.nextHandle, ?_, ?_⟩, fun row waits => delivering.row wrap row held waits⟩))
  · simpa [Function.update_self] using delivering.present
  · intro wrap' held' valid id context
    obtain rfl : { wrap with m := { wrap.m with execRes := none } } = wrap' := by
      simpa [Function.update_self, held] using held'
    exact delivering.owned wrap held valid id context
  · intro wrap' row held' waits
    obtain rfl : { wrap with m := { wrap.m with execRes := none } } = wrap' := by
      simpa [Function.update_self, held] using held'
    exact nomatch waits

/-- The rows that `fetch_rows` collects. -/
theorem reaches_fetchRows_delivering (delivering : Delivering cfg statement start world)
    (rows : Int) :
    Reaches Extends StopsAtClear (Statement.fetchRows cfg (topReconnect cfg) statement rows)
      (fun list after => Delivering cfg statement start after ∧
        ∀ reslist ∈ list, ∀ row ∈ reslist, FetchedSince cfg statement start after row)
      (Delivering cfg statement start) world := by
  refine reaches_ifValid (Extends.stable cfg).toBaseStable delivering.present
    (fun _ _ _ _ => ⟨delivering.raised _, by simp⟩) fun _ _ _ => .iterate
      (fun loop after => Delivering cfg statement start after ∧
        ∀ row ∈ loop.2, FetchedSince cfg statement start after row)
      (fun _ => .inl ⟨by simp, rfl⟩) ?_ _ _ _ ⟨delivering, by simp⟩
  rintro ⟨left, reslist⟩ world ⟨delivering, collected⟩
  rw [fetchRowsOnce]
  split
  · exact .pure ⟨delivering, by simpa using collected⟩
  · refine .isException ?_
    split
    · exact .pure ⟨delivering, by simp⟩
    · refine ((reaches_fetchRow_delivering delivering).related.mono (fun _ _ post => post)
        fun _ post => post.2).bind ?_
      rintro h middle ⟨first, delivering, taken⟩
      refine ((reaches_next_delivering delivering).related.mono (fun _ _ post => post)
        fun _ post => post.2).bind ?_
      rintro more after ⟨second, delivering, -⟩
      have collected : ∀ row ∈ reslist ++ h.toList, FetchedSince cfg statement start after row := by
        intro row member
        rcases List.mem_append.mp member with before | last
        · exact (collected row before).mono (first.trans second).suffix
        · exact (taken row (by simpa using last)).mono second.suffix
      split
      · exact .pure ⟨delivering, collected⟩
      · exact .pure ⟨delivering, by simpa using collected⟩

/-- A method of a statement that has private data is run. -/
theorem reaches_run_delivering {α : Type} {method : Driver σ α} {failed : α}
    {post : α → World σ → Prop} (delivering : Delivering cfg statement start world)
    (fails : ∀ after, post failed after)
    (reaches : Reaches Extends StopsAtClear method
      (fun value after => Delivering cfg statement start after ∧ post value after)
      (Delivering cfg statement start) world) :
    Reaches Extends StopsAtClear (DBModuleWrap.run cfg statement failed method)
      (fun value after => Delivering cfg statement start after ∧ post value after)
      (fun _ => False) world := by
  have base := (Extends.stable cfg).toBaseStable
  have attempts : Reaches Extends StopsAtClear (DBModuleWrap.runBody cfg statement failed method)
      (fun value after => Delivering cfg statement start after ∧ post value after)
      (Delivering cfg statement start) world := by
    refine .isException ?_
    split
    · exact .pure ⟨delivering, fails _⟩
    · obtain ⟨wrap, held⟩ := Option.isSome_iff_exists.mp delivering.present
      have opened : Reaches Extends StopsAtClear (DBModuleWrap.moduleWrap cfg statement)
          (fun _ after => world = after) (Delivering cfg statement start) world := by
        rw [Reaches, DBModuleWrap.moduleWrap, wp_bind, wp_get, held]
        exact ⟨.refl world, rfl⟩
      refine opened.bind ?_
      rintro _ _ rfl
      exact reaches
  refine attempts.tryCatch fun error after delivering => ?_
  have raised : Reaches Extends StopsAtClear (error.raise : Driver σ Unit)
      (fun _ => Delivering cfg statement start) (fun _ => False) after := by
    refine .isException (.when (fun _ => ?_) fun _ => delivering)
    exact ⟨base.raise after error.err error.desc, delivering.raised _⟩
  exact raised.bind fun _ _ delivering => .pure ⟨delivering, fails _⟩

end Methods

/-! ### The execution -/

/-- A statement whose command was made since a state, or is used up. -/
def Executed (statement : StatementId) (start world : World σ) : Prop :=
  (world.statements statement).isSome ∧
    ∀ wrap, world.statements statement = some wrap → wrap.m.valid = true →
      ∀ id, wrap.m.context = some id → id < world.nextCommand ∧
        (start.nextCommand ≤ id ∨ ∀ cmd, world.commands id = some cmd → Spent cmd.lastRes)

/-- An execution makes a command, or cancels the one that was there. -/
theorem reaches_execOp_executed (numbered : Numbered start) :
    ReachesBy FetchRule (StatementOp.exec.run cfg statement) (fun _ => Executed statement start)
      (Executed statement start) start := by
  have isCanceled : Spent .resCanceled := ⟨by simp [ResType.waits], rfl⟩
  have isEnded : Spent .resEnd := ⟨by simp [ResType.waits], rfl⟩
  refine reaches_execOpTo isCanceled isEnded numbered (fun _ _ executed => executed) ?_ ?_ ?_ ?_
  · intro after present unbound
    exact ⟨present, fun wrap held _ id context => nomatch (unbound wrap held).symm.trans context⟩
  · intro after present isInvalid
    exact ⟨present, fun wrap held valid => absurd (valid.symm.trans (isInvalid wrap held))
      (by simp)⟩
  · intro after rests
    refine ⟨rests.present, fun wrap held _ id context => ?_⟩
    obtain ⟨below, spent⟩ := rests.rests wrap held id context
    exact ⟨below, .inr spent⟩
  · intro cmd after present holds new
    refine ⟨present, fun wrap held _ id context => ?_⟩
    obtain ⟨later, tracked⟩ := new id ((holds wrap held).symm.trans context)
    exact ⟨tracked.1, .inl later⟩

/-- What is known of a statement after it was executed, if no row was waiting before. -/
theorem delivering_of_exec {call : Call} (numbered : Numbered start)
    (idle : ∀ wrap, start.statements statement = some wrap → wrap.m.execRes = none)
    (executes : call.op = .statement statement .exec)
    (returns : call.run cfg start = (.ok (), after)) : Delivering cfg statement start after := by
  have reaches : ReachesBy FetchRule (StatementOp.exec.run cfg statement)
      (fun _ => Executed statement (start.calling call)) _ (start.calling call) :=
    reaches_execOp_executed numbered
  have carries := Carries.keeps_execOp cfg statement (start.calling call)
  rw [Call.run, executes] at returns
  obtain ⟨-, present, owned⟩ := (wp_iff_forall.mp reaches).1 _ _ returns
  have carries : Carries start after := by
    have kept := (wp_iff_forall.mp carries).1 _ _ returns
    exact ⟨kept.log, kept.nextHandle, kept.handles, kept.rows⟩
  refine ⟨present, carries.log, carries.nextHandle, fun wrap held valid id context => ?_,
    fun wrap row held waits => ?_⟩
  · obtain ⟨below, later | spent⟩ := owned wrap held valid id context
    · refine ⟨below, .inr fun cmd handle there same => ?_⟩
      rcases carries.handles id cmd handle there same with ⟨cmd', there', -⟩ | new
      · exact absurd (numbered id cmd' there') (Nat.not_lt.mpr later)
      · exact new
    · exact ⟨below, .inl spent⟩
  · obtain ⟨wrap', held', waited⟩ := carries.rows statement wrap row held waits
    exact absurd ((idle wrap' held').symm.trans waited) (by simp)

/-! ### Runs -/

/-- The methods that deliver rows, or tell whether there is one. -/
def StatementOp.deliversRows : StatementOp → Bool
  | next | fetchRow | fetchRows _ => true
  | _ => false

/-- No row that was fetched ahead waits in the statement. -/
def NoRowWaits (statement : StatementId) (world : World σ) : Prop :=
  ∀ wrap, world.statements statement = some wrap → wrap.m.execRes = none

/-- An execution of a statement that meets a condition, in any state that can be reached, and then
reads of its rows. The first state is the one in which the latest execution began: a statement is
executed again in a state that such a run has reached. -/
inductive RowRun (cfg : Config σ) (statement : StatementId) (allowed : World σ → Prop) :
    World σ → World σ → Prop where
  | executed {start after : World σ} {call : Call} (reached : Reachable cfg (fun _ _ => True) start)
      (meets : allowed start) (executes : call.op = .statement statement .exec)
      (returns : call.run cfg start = (.ok (), after)) : RowRun cfg statement allowed start after
  | again {earlier start after : World σ} {call : Call}
      (run : RowRun cfg statement allowed earlier start) (meets : allowed start)
      (executes : call.op = .statement statement .exec)
      (returns : call.run cfg start = (.ok (), after)) : RowRun cfg statement allowed start after
  | reads {start world after : World σ} {call : Call} {op : StatementOp}
      (run : RowRun cfg statement allowed start world) (reading : call.op = .statement statement op)
      (delivers : op.deliversRows = true) (returns : call.run cfg world = (.ok (), after)) :
      RowRun cfg statement allowed start after

/-- What the methods deliver was fetched since a state. -/
structure DeliversCurrent (cfg : Config σ) (statement : StatementId) (start world : World σ) :
    Prop where
  fetchRow : ∀ xsink row after,
    DBModuleWrap.fetchRow cfg statement { world with xsink := xsink } = (.ok (some row), after) →
      FetchedSince cfg statement start after row
  fetchRows : ∀ xsink rows reslist after,
    DBModuleWrap.fetchRows cfg statement rows { world with xsink := xsink } =
      (.ok (some reslist), after) → ∀ row ∈ reslist, FetchedSince cfg statement start after row
  next : ∀ xsink after,
    DBModuleWrap.next cfg statement { world with xsink := xsink } = (.ok true, after) →
      ∃ wrap row, after.statements statement = some wrap ∧ wrap.m.execRes = some row ∧
        FetchedSince cfg statement start after row

section Runs

variable (delivering : Delivering cfg statement start world) (xsink : List QoreException)
include delivering

theorem reaches_nextOp : Reaches Extends StopsAtClear (DBModuleWrap.next cfg statement)
    (fun more after => Delivering cfg statement start after ∧ (more = true →
      ∃ wrap row, after.statements statement = some wrap ∧ wrap.m.execRes = some row))
    (fun _ => False) { world with xsink := xsink } :=
  reaches_run_delivering (delivering.raised xsink) (fun _ => by simp)
    (reaches_next_delivering (delivering.raised xsink))

theorem reaches_fetchRowOp : Reaches Extends StopsAtClear (DBModuleWrap.fetchRow cfg statement)
    (fun h after => Delivering cfg statement start after ∧
      ∀ row ∈ h, FetchedSince cfg statement start after row)
    (fun _ => False) { world with xsink := xsink } :=
  reaches_run_delivering (delivering.raised xsink) (fun _ => by simp)
    (reaches_fetchRow_delivering (delivering.raised xsink))

theorem reaches_fetchRowsOp (rows : Int) : Reaches Extends StopsAtClear
    (DBModuleWrap.fetchRows cfg statement rows)
    (fun list after => Delivering cfg statement start after ∧
      ∀ reslist ∈ list, ∀ row ∈ reslist, FetchedSince cfg statement start after row)
    (fun _ => False) { world with xsink := xsink } :=
  reaches_run_delivering (delivering.raised xsink) (fun _ => by simp)
    (reaches_fetchRows_delivering (delivering.raised xsink) rows)

omit xsink in
/-- A read of rows leaves what is known of the statement. -/
theorem delivering_of_read {call : Call} {op : StatementOp}
    (reading : call.op = .statement statement op) (delivers : op.deliversRows = true)
    (returns : call.run cfg world = (.ok (), after)) : Delivering cfg statement start after := by
  rw [Call.run, reading] at returns
  have reads : Reaches Extends StopsAtClear (op.run cfg statement)
      (fun _ => Delivering cfg statement start) (fun _ => False) (world.calling call) := by
    cases op with
    | next =>
      exact (reaches_nextOp delivering call.xsink).bind fun _ _ post => .pure post.1
    | fetchRow =>
      exact (reaches_fetchRowOp delivering call.xsink).bind fun _ _ post => .pure post.1
    | fetchRows rows =>
      exact (reaches_fetchRowsOp delivering call.xsink rows).bind fun _ _ post => .pure post.1
    | _ => cases delivers
  exact ((wp_iff_forall.mp reads).1 _ _ returns).2

omit xsink in
theorem Delivering.deliversCurrent : DeliversCurrent cfg statement start world where
  fetchRow xsink row after returns := by
    obtain ⟨-, -, taken⟩ := (wp_iff_forall.mp (reaches_fetchRowOp delivering xsink)).1 _ _ returns
    exact taken row rfl
  fetchRows xsink rows reslist after returns := by
    obtain ⟨-, -, collected⟩ :=
      (wp_iff_forall.mp (reaches_fetchRowsOp delivering xsink rows)).1 _ _ returns
    exact collected reslist rfl
  next xsink after returns := by
    obtain ⟨-, delivering, waits⟩ :=
      (wp_iff_forall.mp (reaches_nextOp delivering xsink)).1 _ _ returns
    obtain ⟨wrap, row, held, same⟩ := waits rfl
    exact ⟨wrap, row, held, same, delivering.row wrap row held same⟩

end Runs

/-- The states of a run are reached by calls. -/
theorem RowRun.reachable {allowed : World σ → Prop}
    (run : RowRun cfg statement allowed start world) :
    Reachable cfg (fun _ _ => True) world := by
  induction run with
  | executed reached _ _ returns => exact .call reached trivial (.inl returns)
  | again _ _ _ returns inductionHypothesis =>
    exact .call inductionHypothesis trivial (.inl returns)
  | reads _ _ _ returns inductionHypothesis =>
    exact .call inductionHypothesis trivial (.inl returns)

theorem RowRun.delivering (run : RowRun cfg statement (NoRowWaits statement) start world) :
    Delivering cfg statement start world := by
  induction run with
  | executed reached meets executes returns =>
    exact delivering_of_exec reached.numbered meets executes returns
  | again run meets executes returns _ =>
    exact delivering_of_exec run.reachable.numbered meets executes returns
  | reads _ reading delivers returns inductionHypothesis =>
    exact delivering_of_read inductionHypothesis reading delivers returns

/-- In a run in which the statement is executed only while no row waits, each row that is delivered
was fetched from the command of the latest execution, and `next` is true only where one was. -/
theorem delivers_current (run : RowRun cfg statement (NoRowWaits statement) start world) :
    DeliversCurrent cfg statement start world := run.delivering.deliversCurrent

/-- Whether an event is a fetch of a row. -/
def Event.isFetch : Event → Bool
  | .call (.fetch _) _ => true
  | _ => false

/-- A row, and then a command that is done without rows. -/
def rowThenDone : List Reply := [{}, {}, {}, { resultType := .row }, { number := 1 },
  { datafmt := ⟨text "a", .int, .int, 0, 4, .unused, 1⟩ }, {},
  { number := 1, cells := [⟨[7, 0, 0, 0], 4, 0⟩] }, {}, {}, {}, {}, {},
  { resultType := .cmdDone }, {}]

/-- The state after `next`, in which the row waits. -/
def sampleAhead : World (List Reply) :=
  ((sampleCall .next).run fetchConfig (sampleExecuted rowThenDone)).2

/-- The state after the statement was executed again. -/
def sampleAgain : World (List Reply) := ((sampleCall .exec).run fetchConfig sampleAhead).2

theorem sampleAhead_run : (sampleCall .next).run fetchConfig (sampleExecuted rowThenDone) =
    (.ok (), sampleAhead) := by
  obtain ⟨_, ran, -⟩ := exists_returned (show ((sampleCall .next).run fetchConfig
    (sampleExecuted rowThenDone)).1.returns (fun _ => true) = true by decide +kernel)
  exact ran

theorem sampleAgain_run : (sampleCall .exec).run fetchConfig sampleAhead =
    (.ok (), sampleAgain) := by
  obtain ⟨_, ran, -⟩ := exists_returned (show ((sampleCall .exec).run fetchConfig
    sampleAhead).1.returns (fun _ => true) = true by decide +kernel)
  exact ran

theorem sampleExecuted_rowRun (allowed : World (List Reply) → Prop)
    (meets : allowed (samplePrepared rowThenDone)) : RowRun fetchConfig 0 allowed
      (samplePrepared rowThenDone) (sampleExecuted rowThenDone) := by
  have executes : (sampleCall .exec).op = .statement 0 .exec := rfl
  exact .executed (samplePrepared_reachable _) meets executes rfl

/-- The row was fetched ahead. -/
theorem sampleAhead_rowRun {allowed : World (List Reply) → Prop}
    (run : RowRun fetchConfig 0 allowed (samplePrepared rowThenDone) (sampleExecuted rowThenDone)) :
    RowRun fetchConfig 0 allowed (samplePrepared rowThenDone) sampleAhead := by
  have reading : (sampleCall .next).op = .statement 0 .next := rfl
  exact .reads run reading rfl sampleAhead_run

/-- The row that waits was fetched since the statement was executed. -/
theorem delivers_current_ahead :
    DeliversCurrent fetchConfig 0 (samplePrepared rowThenDone) sampleAhead := by
  refine delivers_current (sampleAhead_rowRun
    (sampleExecuted_rowRun (NoRowWaits 0) fun wrap held => ?_))
  obtain rfl : ⟨create, some (text "select 1"), false, none⟩ = wrap := Option.some.inj held
  rfl

/-- A row that was fetched since a state was fetched by a call that is in the log. -/
theorem FetchedSince.logged {row : Hash} (fetched : FetchedSince cfg statement start world row) :
    ∃ entry ∈ world.log.take (world.log.length - start.log.length),
      ∃ handle reply, entry.event = .call (.fetch handle) reply := by
  obtain ⟨_, _, _, _, before, last, -, -, -, -, -, ⟨since, hSince⟩, ran, within, log⟩ := fetched
  obtain ⟨_, handle, _, _, entry, reply, later, earlier, event, made⟩ := fetchRow_some ran
  refine ⟨entry, ?_, some handle, reply, event⟩
  have split : world.log = (within ++ later ++ entry :: (earlier ++ since)) ++ start.log := by
    rw [← log, made, ← hSince]
    simp
  rw [split, List.length_append, Nat.add_sub_cancel, List.take_left]
  simp

/-- A statement is executed again while a row waits, and the row is delivered as one of the new
execution, which fetched none. -/
theorem not_delivers_current : ∃ start world : World (List Reply),
    RowRun fetchConfig 0 (fun _ => True) start world ∧
      ¬DeliversCurrent fetchConfig 0 start world := by
  have executes : (sampleCall .exec).op = .statement 0 .exec := rfl
  have run : RowRun fetchConfig 0 (fun _ => True) sampleAhead sampleAgain :=
    .again (sampleAhead_rowRun (sampleExecuted_rowRun _ trivial)) trivial executes sampleAgain_run
  refine ⟨_, _, run, fun current => ?_⟩
  obtain ⟨row, ran, delivered⟩ := exists_returned (show
    (DBModuleWrap.fetchRow fetchConfig 0 { sampleAgain with xsink := [] }).1.returns Option.isSome =
      true by decide +kernel)
  obtain ⟨row, rfl⟩ := Option.isSome_iff_exists.mp delivered
  obtain ⟨entry, member, handle, reply, event⟩ := (current.fetchRow [] row _ ran).logged
  have noFetch : ∀ entry ∈ (DBModuleWrap.fetchRow fetchConfig 0
        { sampleAgain with xsink := [] }).2.log.take
      ((DBModuleWrap.fetchRow fetchConfig 0 { sampleAgain with xsink := [] }).2.log.length -
        sampleAhead.log.length), entry.event.isFetch = false := by decide +kernel
  have isFetch := noFetch entry member
  rw [event] at isFetch
  cases isFetch

end Sybase
