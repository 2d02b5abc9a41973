/-
This file proves which rows a statement delivers. A command that reads a script of query
results has the rows of the open result left, and the rows of the results that follow; a
statement may have fetched one row ahead. `next` moves the first row that is left to the
row fetched ahead, `fetch_row` delivers that row, and `fetch_rows` repeats both, so what
was delivered and what is left are always the rows of the script.
-/

import SybaseDriver.Growth
import SybaseDriver.Module
import SybaseDriver.Output

namespace Sybase

open Program Command Connection

/-! ### The rows a command has left -/

section Source

variable (cfg : Config Playing) (isMultiByte : Bool)

/-- The rows of the query results of a script. -/
def scriptRows (script : List Announcement) : List Hash :=
  script.flatMap fun
    | .row result => result.rowHashes cfg isMultiByte none
    | _ => []

/-- A script of query results, in which the columns of each are described anew. -/
structure QueryScript (dirty : Bool) (script : List Announcement) : Prop where
  queries : ∀ announcement ∈ script, (∃ result, announcement = .row result) ∨
    (∃ count, announcement = .done count) ∨ announcement = .succeed
  fresh : FreshRows dirty (script.filter Announcement.isOutput)
  readable : Readable cfg isMultiByte script
  enough : script.length < cfg.fuel

/-- A command has rows of the open result left, if there is one, and the rows of the results that
follow. -/
inductive Source (cmd : Command) (env : Playing) : Option (List Hash) → List Hash → Prop where
  | opened (reads : cmd.lastRes = .resRow)
      (ready : cmd.colinfo.dirty = true ∨ IsBound cfg isMultiByte cmd env)
      (wellFormed : env.current.WellFormed cfg isMultiByte)
      (later : QueryScript cfg isMultiByte false env.script) :
      Source cmd env (some (env.current.rowHashes cfg isMultiByte none))
        (scriptRows cfg isMultiByte env.script)
  | waiting {dirty : Bool} (waits : cmd.lastRes = .resDone ∨ cmd.lastRes = .resNone)
      (stale : dirty = true → cmd.colinfo.dirty = true)
      (later : QueryScript cfg isMultiByte dirty env.script) :
      Source cmd env none (scriptRows cfg isMultiByte env.script)
  | ended (atEnd : cmd.lastRes = .resEnd) : Source cmd env none []

end Source

section Reading

variable {cfg : Config Playing} {id : CommandId} {cmd : Command} {env : Playing}
  {reconnect : Reconnect Playing} {base world : World Playing} {left : Option (List Hash)}
  {later : List Hash}

theorem QueryScript.tail {dirty : Bool} {isMultiByte : Bool} {before rest : List Announcement}
    {announcement : Announcement}
    (script : QueryScript cfg isMultiByte dirty (before ++ announcement :: rest))
    (succeeds : ∀ earlier ∈ before, earlier.isOutput = false)
    (output : announcement.isOutput = true) :
    QueryScript cfg isMultiByte (announcement.leavesDirty dirty) rest ∧
      ((∃ result, announcement = .row result) → dirty = true) := by
  have fresh := script.fresh
  rw [List.filter_append, List.filter_eq_nil_iff.mpr fun earlier member => by
    simp [succeeds earlier member], List.nil_append, List.filter_cons_of_pos output] at fresh
  refine ⟨⟨fun other member => script.queries other ?_, fresh.2,
    fun other member => script.readable other ?_, ?_⟩, fresh.1⟩
  · exact List.mem_append_right _ (List.mem_cons_of_mem _ member)
  · exact List.mem_append_right _ (List.mem_cons_of_mem _ member)
  · have enough := script.enough
    rw [List.length_append, List.length_cons] at enough
    omega

/-- The rows of a script come from its announcements that have a result. -/
theorem scriptRows_of_succeeds (isMultiByte : Bool) {before rest : List Announcement}
    (succeeds : ∀ earlier ∈ before, earlier.isOutput = false) :
    scriptRows cfg isMultiByte (before ++ rest) = scriptRows cfg isMultiByte rest := by
  induction before with
  | nil => rfl
  | cons first before inductionHypothesis =>
    have isSucceed := succeeds first List.mem_cons_self
    have same := inductionHypothesis fun earlier member =>
      succeeds earlier (List.mem_cons_of_mem _ member)
    cases first <;> first | exact same | cases isSucceed

/-- The state of a command after the next result was announced, or the open one again. -/
structure Advanced (cfg : Config Playing) (isMultiByte : Bool) (cmd : Command)
    (left : Option (List Hash)) (later : List Hash) (result : ResType) (cmd' : Command)
    (env' : Playing) : Prop where
  onHandle : cmd'.mCmd = cmd.mCmd
  again : left.isSome → Source cfg isMultiByte cmd' env' left later ∧ result = .resRow
  source : ∃ left' later', Source cfg isMultiByte cmd' env' left' later' ∧
    left'.getD [] ++ later' = left.getD [] ++ later ∧
    (Statement.expectRow result = true → left'.isSome)

/-- `readNextResult` announces an open result again; otherwise it moves on to the next one. No row
is read. -/
theorem wp_readNextResult_source (plays : cfg.lib = CtLib.play)
    (held : world.commands id = some cmd) (holds : cmd.mCmd.isSome) (quiet : world.xsink = [])
    (positive : 0 < cfg.fuel)
    (source : Source cfg world.connection.enc.isMultiByte cmd world.env left later) :
    wp (readNextResult cfg reconnect id)
      (fun result after => ∃ cmd' env', ReadTo id cmd' env' world after ∧
        Advanced cfg world.connection.enc.isMultiByte cmd left later result cmd' env')
      noThrow noHalt world := by
  have connection : ∀ {result : ResType} {onRead : World Playing → Prop},
      wp (Command.readNextResult cfg id) (fun read after => read = (result, false) ∧ onRead after)
        noThrow noHalt world →
      wp (readNextResult cfg reconnect id) (fun read after => read = result ∧ onRead after)
        noThrow noHalt world := wp_readNextResult_connection quiet
  cases source with
  | opened reads ready wellFormed later =>
    refine wp_mono_ok
      (connection (wp_readNextResult_again held quiet (by simp [reads]) positive)) ?_
    rintro _ after ⟨rfl, read⟩
    have same := Source.opened reads ready wellFormed later
    exact ⟨cmd, _, read, rfl, fun _ => ⟨same, reads⟩, _, _, same, rfl, fun _ => rfl⟩
  | waiting waits stale later =>
    have waits : cmd.lastRes = .resDone ∨ cmd.lastRes = .resNone ∨ cmd.lastRes = .resRetry :=
      waits.elim .inl fun none => .inr (.inl none)
    rcases exists_output world.env.script with succeeds | ⟨before, announcement, rest, script,
      succeeds, output⟩
    · refine wp_mono_ok
        (connection (wp_readNextResult_end plays holds (readTo_refl held) quiet waits
        succeeds later.enough)) ?_
      rintro _ after ⟨rfl, read⟩
      have noRows : scriptRows cfg world.connection.enc.isMultiByte (world.env.script ++ []) = [] :=
        scriptRows_of_succeeds _ succeeds
      rw [List.append_nil] at noRows
      exact ⟨_, _, read, rfl, nofun, none, [], .ended rfl, by rw [noRows], nofun⟩
    · have enough := later.enough
      rw [script] at later enough
      rw [List.length_append, List.length_cons] at enough
      obtain ⟨laterRest, fresh⟩ := later.tail succeeds output
      have member : announcement ∈ before ++ announcement :: rest :=
        List.mem_append_right _ List.mem_cons_self
      refine wp_mono_ok
        (connection (wp_readNextResult_play plays holds (readTo_refl held) quiet waits
        script succeeds output (by omega))) ?_
      rintro _ after ⟨rfl, read⟩
      refine ⟨_, _, read, ?_⟩
      rw [script, scriptRows_of_succeeds _ succeeds]
      rcases later.queries announcement member with ⟨result, rfl⟩ | ⟨count, rfl⟩ | rfl
      · have wellFormed := (later.readable _ member result rfl).1
        exact ⟨rfl, nofun, _, _, .opened rfl (.inl (stale (fresh ⟨result, rfl⟩))) wellFormed
          laterRest, rfl, fun _ => rfl⟩
      · exact ⟨rfl, nofun, _, _, .waiting (.inl rfl) (fun _ => rfl) laterRest, rfl, nofun⟩
      · exact absurd output (by simp [Announcement.isOutput])
  | ended atEnd =>
    refine wp_mono_ok
      (connection (wp_readNextResult_again held quiet (by simp [atEnd]) positive)) ?_
    rintro _ after ⟨rfl, read⟩
    exact ⟨cmd, _, read, rfl, nofun, none, [], .ended atEnd, rfl, fun expected => by
      rw [atEnd] at expected
      cases expected⟩

/-! ### Fetching a row ahead -/

/-- The state of a command after a row was fetched, or after the last row. -/
def Fetched (cfg : Config Playing) (isMultiByte : Bool) (rows later : List Hash)
    (row : Option Hash) (cmd : Command) (env : Playing) : Prop :=
  match rows with
  | [] => row = none ∧ Source cfg isMultiByte cmd env none later
  | first :: rest => row = some first ∧ Source cfg isMultiByte cmd env (some rest) later

/-- The columns of an open result are described where they were not yet. -/
theorem wp_ensureColinfo_ready (plays : cfg.lib = CtLib.play)
    (held : world.commands id = some cmd) (holds : cmd.mCmd.isSome) (quiet : world.xsink = [])
    (ready : cmd.colinfo.dirty = true ∨
      IsBound cfg world.connection.enc.isMultiByte cmd world.env)
    (wellFormed : world.env.current.WellFormed cfg world.connection.enc.isMultiByte) :
    wp (ensureColinfo cfg id)
      (fun failed after => failed = 0 ∧ ∃ cmd' env', ReadTo id cmd' env' world after ∧
        env'.current = world.env.current ∧ env'.script = world.env.script ∧
        IsBound cfg world.connection.enc.isMultiByte cmd' env' ∧
        cmd'.mCmd = cmd.mCmd ∧ cmd'.lastRes = cmd.lastRes) noThrow noHalt world := by
  have columns : world.env.current.described cfg world.connection.enc.isMultiByte ≠ [] :=
    mt List.map_eq_nil_iff.mp wellFormed.columns
  rcases ready with dirty | bound
  · rw [ensureColinfo, wp_bind, wp_getCommand_some held,
      if_pos (by rw [Columns.needRefresh, dirty, Bool.true_or])]
    refine wp_mono_ok (wp_retrColinfo_play plays holds (readTo_refl held) quiet
      wellFormed.columns) ?_
    rintro _ after ⟨rfl, cmd', read, described, onHandle, -, lastRes, -⟩
    exact ⟨rfl, cmd', _, read, rfl, rfl, ⟨described, Nat.le_max_right _ _⟩, onHandle, lastRes⟩
  · refine wp_mono_ok (wp_ensureColinfo_described held bound.described columns) ?_
    rintro _ _ ⟨rfl, rfl⟩
    exact ⟨rfl, cmd, _, readTo_refl held, rfl, rfl, bound, rfl, rfl⟩

/-- `command::fetch_row` takes the first row that is left. -/
theorem wp_fetchRow_source (plays : cfg.lib = CtLib.play) {rows : List Hash}
    (held : world.commands id = some cmd) (holds : cmd.mCmd.isSome) (quiet : world.xsink = [])
    (source : Source cfg world.connection.enc.isMultiByte cmd world.env (some rows) later) :
    wp (Command.fetchRow cfg id none)
      (fun row after => ∃ cmd' env', ReadTo id cmd' env' world after ∧ cmd'.mCmd = cmd.mCmd ∧
        Fetched cfg world.connection.enc.isMultiByte rows later row cmd' env')
      noThrow noHalt world := by
  cases source with
  | opened reads ready wellFormed later =>
    rw [Command.fetchRow, wp_bind]
    refine wp_mono_ok (wp_ensureColinfo_ready plays held holds quiet ready wellFormed) ?_
    rintro _ middle ⟨rfl, cmd', env', read, current, script, bound, onHandle, lastRes⟩
    rw [if_neg (by simp), wp_bind, ← current, ← script]
    rw [← current] at wellFormed
    rw [← script] at later
    have holds' : cmd'.mCmd.isSome := onHandle ▸ holds
    have answers := @reply_play cfg cmd' plays (.fetch cmd'.mCmd) holds' rfl middle.env
    rw [read.env] at answers
    cases left : env'.current.rows with
    | nil =>
      have code : (cfg.lib.reply (.fetch cmd'.mCmd) middle.env).1.code = .endData := by
        rw [read.env, answers]
        simp [CtLib.play, left]
      refine wp_mono_ok (wp_fetchRowIntoBuffers_endData read.commands code) ?_
      rintro _ after ⟨rfl, readAfter⟩
      rw [read.env, answers] at readAfter
      refine ⟨_, _, read.trans readAfter, onHandle, ?_⟩
      rw [Fetchable.rowHashes, Fetchable.rowValues, left]
      simp only [CtLib.play, left]
      exact ⟨rfl, .waiting (.inr rfl) (fun isDirty => absurd isDirty Bool.false_ne_true) later⟩
    | cons cells rest =>
      obtain ⟨values, decoded⟩ :=
        Option.isSome_iff_exists.mp (wellFormed.rows cells (left ▸ List.mem_cons_self))
      have code : (cfg.lib.reply (.fetch cmd'.mCmd) middle.env).1.code = .succeed := by
        rw [read.env, answers]
        simp [CtLib.play, left]
      have one : (cfg.lib.reply (.fetch cmd'.mCmd) middle.env).1.number = 1 := by
        rw [read.env, answers]
        simp [CtLib.play, left]
      have all : env'.stored cells = cells := List.take_of_length_le
        ((wellFormed.length_row (left ▸ List.mem_cons_self)).trans_le bound.bound)
      have cellsRead : (cfg.lib.reply (.fetch cmd'.mCmd) middle.env).1.cells = cells := by
        rw [read.env, answers]
        simpa [CtLib.play, left] using all
      obtain ⟨stored, cellsEq⟩ := bound.described.store (decodeCells_length decoded).1
      refine wp_mono_ok (wp_fetchRowIntoBuffers_row read.commands code one) ?_
      rw [cellsRead, read.env, answers]
      rintro _ after ⟨rfl, readAfter⟩
      have readAfter := read.trans readAfter
      rw [if_pos rfl]
      refine wp_mono_ok (wp_outputBuffersToHash none readAfter.commands stored
        (readAfter.xsink.trans quiet) (cellsEq.symm ▸ decoded)) ?_
      rintro _ last ⟨rfl, logged⟩
      have readLast := readAfter.trans (logged.readTo readAfter.commands)
      rw [readAfter.env] at readLast
      refine ⟨_, _, readLast, onHandle, ?_⟩
      rw [Fetchable.rowHashes, Fetchable.rowValues, left, List.map_cons, List.map_cons, decoded,
        Option.getD_some]
      simp only [CtLib.play, left]
      refine ⟨rfl, Source.opened (lastRes.trans reads) (.inr ⟨stored, bound.bound⟩)
        ⟨wellFormed.columns, ?_⟩ later⟩
      exact fun other member => wellFormed.rows other (left ▸ List.mem_cons_of_mem _ member)

end Reading

/-! ### The rows a statement has left -/

/-- A valid statement with a row fetched ahead, if there is one, on a command with rows left. -/
structure Cursor (cfg : Config Playing) (statement : StatementId) (ahead : Option Hash)
    (left : Option (List Hash)) (later : List Hash) (world : World Playing) : Prop where
  isOpen : world.isOpen = true
  quiet : world.xsink = []
  reads : ∃ wrap id cmd, world.statements statement = some wrap ∧ wrap.m.valid = true ∧
    wrap.m.context = some id ∧ wrap.m.execRes = ahead ∧ world.commands id = some cmd ∧
    cmd.mCmd.isSome ∧ Source cfg world.connection.enc.isMultiByte cmd world.env left later

/-- The rows that are not delivered yet. -/
def pendingRows (ahead : Option Hash) (left : Option (List Hash)) (later : List Hash) : List Hash :=
  ahead.toList ++ (left.getD [] ++ later)

section Statement

variable {cfg : Config Playing} {statement : StatementId} {reconnect : Reconnect Playing}
  {world after : World Playing} {ahead : Option Hash} {left : Option (List Hash)}
  {rows later : List Hash}

/-- Reading the command of a statement. -/
theorem Cursor.read {wrap : ModuleWrap} {id : CommandId} {cmd : Command} {env : Playing}
    {left' : Option (List Hash)} {later' : List Hash}
    (cursor : Cursor cfg statement ahead left later world)
    (held : world.statements statement = some wrap) (valid : wrap.m.valid = true)
    (context : wrap.m.context = some id) (read : ReadTo id cmd env world after)
    (holds : cmd.mCmd.isSome)
    (source : Source cfg world.connection.enc.isMultiByte cmd env left' later') :
    Cursor cfg statement wrap.m.execRes left' later' after := by
  obtain ⟨_, _, _, rfl⟩ := read
  exact ⟨cursor.isOpen, cursor.quiet, wrap, id, cmd, held, valid, context, rfl,
    Function.update_self _ _ _, holds, source⟩

/-- A change of the row fetched ahead. -/
theorem Cursor.buffer (cursor : Cursor cfg statement ahead left later world) (row : Option Hash) :
    Cursor cfg statement row left later { world with
      statements := Function.update world.statements statement
        ((world.statements statement).map fun wrap => { wrap with
          m := { wrap.m with execRes := row } }) } := by
  obtain ⟨isOpen, quiet, wrap, id, cmd, held, valid, context, -, command, holds, source⟩ := cursor
  exact ⟨isOpen, quiet, { wrap with m := { wrap.m with execRes := row } }, id, cmd, by simp [held],
    valid, context, rfl, command, holds, source⟩

/-- `fetch_row` delivers the row fetched ahead. -/
theorem wp_fetchRow_cursor (cursor : Cursor cfg statement ahead left later world) :
    wp (Statement.fetchRow statement)
      (fun row after => row = ahead ∧ Cursor cfg statement none left later after)
      noThrow noHalt world := by
  obtain ⟨wrap, id, cmd, held, valid, context, buffered, -⟩ := cursor.reads
  rw [Statement.fetchRow, wp_bind, wp_getModuleWrap_some held]
  exact ⟨buffered, cursor.buffer none⟩

/-- The state of a statement after a row was to be fetched ahead. -/
def Took (cfg : Config Playing) (statement : StatementId) (ahead : Option Hash)
    (rows later : List Hash) (after : World Playing) : Prop :=
  match ahead, rows with
  | some row, rows => Cursor cfg statement (some row) (some rows) later after
  | none, [] => Cursor cfg statement none none later after
  | none, first :: rest => Cursor cfg statement (some first) (some rest) later after

theorem wp_fetchAhead_cursor (plays : cfg.lib = CtLib.play)
    (cursor : Cursor cfg statement ahead (some rows) later world) :
    wp (Statement.fetchAhead cfg statement)
      (fun _ after => Took cfg statement ahead rows later after) noThrow noHalt world := by
  obtain ⟨wrap, id, cmd, held, valid, context, rfl, command, holds, source⟩ := cursor.reads
  rw [Statement.fetchAhead, wp_bind, wp_getModuleWrap_some held, wp_when]
  cases buffered : wrap.m.execRes with
  | some row =>
    refine ⟨fun none => absurd none (by simp), fun _ => ?_⟩
    rw [buffered] at cursor
    exact cursor
  | none =>
    refine ⟨fun _ => ?_, fun some => absurd rfl some⟩
    rw [wp_bind, Statement.getContext, wp_bind, wp_getModuleWrap_some held, context, wp_pure,
      wp_bind]
    refine wp_mono_ok (wp_fetchRow_source plays command holds cursor.quiet source) ?_
    rintro row fetched ⟨cmd', env', read, onHandle, taken⟩
    cases rows with
    | nil =>
      obtain ⟨rfl, source'⟩ := taken
      exact (cursor.read held valid context read (onHandle ▸ holds) source').buffer none
    | cons first rest =>
      obtain ⟨rfl, source'⟩ := taken
      exact (cursor.read held valid context read (onHandle ▸ holds) source').buffer (some first)

/-- The row fetched ahead was one of the rows that were left. -/
theorem Took.cursor (took : Took cfg statement ahead rows later after) :
    ∃ ahead' left', Cursor cfg statement ahead' left' later after ∧
      ahead'.isSome = (ahead.isSome || !rows.isEmpty) ∧
        pendingRows ahead' left' later = pendingRows ahead (some rows) later := by
  unfold Took at took
  split at took
  · exact ⟨_, _, took, rfl, rfl⟩
  · exact ⟨_, _, took, rfl, rfl⟩
  · exact ⟨_, _, took, rfl, rfl⟩

/-- What `next` says is whether a row was fetched ahead. -/
theorem wp_hasRow (cursor : Cursor cfg statement ahead left later world) :
    wp (do pure (← getModuleWrap statement).m.execRes.isSome)
      (fun more after => more = ahead.isSome ∧ after = world) noThrow noHalt world := by
  obtain ⟨wrap, id, cmd, held, valid, context, buffered, -⟩ := cursor.reads
  rw [wp_bind, wp_getModuleWrap_some held]
  exact ⟨congrArg Option.isSome buffered, rfl⟩

/-- The first part of `next`. -/
theorem wp_next_announced (cursor : Cursor cfg statement ahead left later world)
    {onOk : Bool → World Playing → Prop}
    (rest : wp (do
        let res ← Statement.readNextResult cfg reconnect
          (← getModuleWrap statement).m.context
        if ← isException then pure false
        else do
          when (Statement.expectRow res) (Statement.fetchAhead cfg statement)
          pure (← getModuleWrap statement).m.execRes.isSome) onOk noThrow noHalt world) :
    wp (Statement.next cfg reconnect statement) onOk noThrow noHalt world := by
  obtain ⟨wrap, id, cmd, held, valid, -⟩ := cursor.reads
  rw [Statement.next, wp_bind, Statement.checkValid, wp_bind, wp_getModuleWrap_some held,
    if_pos valid, wp_pure, if_neg (by simp), wp_bind, Statement.checkOpen, wp_bind, wp_get,
    if_pos cursor.isOpen]
  exact rest

/-- `next` on an open result fetches its first row ahead, unless one was fetched before. -/
theorem wp_next_opened (plays : cfg.lib = CtLib.play) (positive : 0 < cfg.fuel)
    (cursor : Cursor cfg statement ahead (some rows) later world) :
    wp (Statement.next cfg reconnect statement)
      (fun more after => more = (ahead.isSome || !rows.isEmpty) ∧
        Took cfg statement ahead rows later after) noThrow noHalt world := by
  refine wp_next_announced cursor ?_
  obtain ⟨wrap, id, cmd, held, valid, context, rfl, command, holds, source⟩ := cursor.reads
  rw [wp_bind, wp_getModuleWrap_some held, context, wp_bind]
  refine wp_mono_ok (wp_readNextResult_source plays command holds cursor.quiet positive source) ?_
  rintro result middle ⟨cmd', env', read, advanced⟩
  obtain ⟨source', rfl⟩ := advanced.again rfl
  have cursor' := cursor.read held valid context read (advanced.onHandle ▸ holds) source'
  rw [wp_bind, wp_isException, cursor'.quiet, if_neg (by simp), wp_bind, wp_when]
  refine ⟨fun _ => wp_mono_ok (wp_fetchAhead_cursor plays cursor') fun _ last took => ?_,
    fun skipped => absurd rfl skipped⟩
  obtain ⟨ahead', left', cursorLast, isSome, -⟩ := took.cursor
  refine wp_mono_ok (wp_hasRow cursorLast) ?_
  rintro _ _ ⟨rfl, rfl⟩
  exact ⟨isSome, took⟩

/-- `next` never loses a row: the rows that are left are the same before and after. -/
theorem wp_next_cursor (plays : cfg.lib = CtLib.play) (positive : 0 < cfg.fuel)
    (cursor : Cursor cfg statement ahead left later world) :
    wp (Statement.next cfg reconnect statement)
      (fun more after => ∃ ahead' left' later', Cursor cfg statement ahead' left' later' after ∧
        more = ahead'.isSome ∧ pendingRows ahead' left' later' = pendingRows ahead left later)
      noThrow noHalt world := by
  refine wp_next_announced cursor ?_
  obtain ⟨wrap, id, cmd, held, valid, context, rfl, command, holds, source⟩ := cursor.reads
  rw [wp_bind, wp_getModuleWrap_some held, context, wp_bind]
  refine wp_mono_ok (wp_readNextResult_source plays command holds cursor.quiet positive source) ?_
  rintro result middle ⟨cmd', env', read, onHandle, -, left', later', source', same, opened⟩
  have cursor' := cursor.read held valid context read (onHandle ▸ holds) source'
  have kept : pendingRows wrap.m.execRes left' later' = pendingRows wrap.m.execRes left later :=
    congrArg (wrap.m.execRes.toList ++ ·) same
  rw [wp_bind, wp_isException, cursor'.quiet, if_neg (by simp), wp_bind, wp_when]
  refine ⟨fun expected => ?_, fun _ => ?_⟩
  · obtain ⟨rows, rfl⟩ := Option.isSome_iff_exists.mp (opened expected)
    refine wp_mono_ok (wp_fetchAhead_cursor plays cursor') fun _ last took => ?_
    obtain ⟨ahead'', left'', cursorLast, -, pending⟩ := took.cursor
    refine wp_mono_ok (wp_hasRow cursorLast) ?_
    rintro _ _ ⟨rfl, rfl⟩
    exact ⟨_, _, _, cursorLast, rfl, pending.trans kept⟩
  · refine wp_mono_ok (wp_hasRow cursor') ?_
    rintro _ _ ⟨rfl, rfl⟩
    exact ⟨_, _, _, cursor', rfl, kept⟩

/-! ### Fetching many rows -/

/-- One pass of the loop of `fetch_rows`: what it has delivered and what is left are the same rows,
and it goes on only with a row fetched ahead. -/
theorem wp_fetchRowsOnce_cursor (plays : cfg.lib = CtLib.play) (positive : 0 < cfg.fuel)
    (cursor : Cursor cfg statement ahead left later world) (r : Int) (loop : Int × List Hash) :
    wp (Statement.fetchRowsOnce cfg reconnect statement r loop)
      (fun result after => ∃ ahead' left' later', Cursor cfg statement ahead' left' later' after ∧
        match result with
        | .inl again => ahead'.isSome ∧
          again.2 ++ pendingRows ahead' left' later' = loop.2 ++ pendingRows ahead left later ∧
          (pendingRows ahead' left' later').length + ahead.toList.length =
            (pendingRows ahead left later).length
        | .inr delivered => ∃ rows, delivered = some rows ∧
          rows ++ pendingRows ahead' left' later' = loop.2 ++ pendingRows ahead left later)
      noThrow noHalt world := by
  obtain ⟨rowsLeft, reslist⟩ := loop
  rw [Statement.fetchRowsOnce]
  split
  · exact ⟨_, _, _, cursor, reslist, rfl, rfl⟩
  · rw [wp_bind, wp_isException, cursor.quiet, if_neg (by simp), wp_bind]
    refine wp_mono_ok (wp_fetchRow_cursor cursor) ?_
    rintro _ middle ⟨delivers, cursorMiddle⟩
    rw [delivers, wp_bind]
    refine wp_mono_ok (wp_next_cursor plays positive cursorMiddle) ?_
    rintro _ after ⟨ahead', left', later', cursor', rfl, same⟩
    have delivered : reslist ++ ahead.toList ++ pendingRows ahead' left' later' =
        reslist ++ pendingRows ahead left later := by
      rw [same, List.append_assoc]
      rfl
    split
    · rename_i more
      refine ⟨_, _, _, cursor', more, delivered, ?_⟩
      rw [same, Nat.add_comm]
      exact List.length_append.symm
    · exact ⟨_, _, _, cursor', _, rfl, delivered⟩

/-- `fetch_rows` delivers the first rows that are left. -/
theorem wp_fetchRows_cursor (plays : cfg.lib = CtLib.play)
    (cursor : Cursor cfg statement ahead left later world)
    (enough : (pendingRows ahead left later).length + 1 < cfg.fuel) (r : Int) :
    wp (Statement.fetchRows cfg reconnect statement r)
      (fun delivered after => ∃ rows ahead' left' later', delivered = some rows ∧
        Cursor cfg statement ahead' left' later' after ∧
        rows ++ pendingRows ahead' left' later' = pendingRows ahead left later)
      noThrow noHalt world := by
  obtain ⟨wrap, id, cmd, held, valid, -⟩ := cursor.reads
  rw [Statement.fetchRows, wp_bind, Statement.checkValid, wp_bind, wp_getModuleWrap_some held,
    if_pos valid, wp_pure, if_neg (by simp)]
  -- a pass without a row fetched ahead delivers none, and only the first pass can be one
  refine wp_iterate_variant (fun variant loop world => ∃ ahead' left' later',
      Cursor cfg statement ahead' left' later' world ∧
      loop.2 ++ pendingRows ahead' left' later' = pendingRows ahead left later ∧
      variant = (pendingRows ahead' left' later').length + if ahead'.isSome then 0 else 1)
    ?_ _ ((pendingRows ahead left later).length + if ahead.isSome then 0 else 1) _ _
    (by split <;> omega) ⟨_, _, _, cursor, rfl, rfl⟩
  rintro _ loop world ⟨ahead', left', later', cursor, same, rfl⟩
  refine wp_mono_ok (wp_fetchRowsOnce_cursor plays (by omega) cursor r loop) ?_
  rintro (again | delivered) after ⟨ahead'', left'', later'', cursor', post⟩
  · obtain ⟨isSome, same', length⟩ := post
    refine ⟨_, ?_, _, _, _, cursor', same'.trans same, rfl⟩
    cases ahead' with
    | none => simp [isSome] at length ⊢; omega
    | some row => simp [isSome] at length ⊢; omega
  · obtain ⟨rows, rfl, same'⟩ := post
    exact ⟨rows, _, _, _, rfl, cursor', same'.trans same⟩

/-- The loop of `fetch_rows` without a limit delivers all rows of an open result. -/
theorem wp_iterate_fetchRowsOnce (plays : cfg.lib = CtLib.play)
    (cursor : Cursor cfg statement ahead (some rows) later world) (positive : 0 < cfg.fuel)
    {r : Int} (unlimited : r ≤ 0) (reslist : List Hash) {bound : Nat}
    (enough : rows.length < bound) :
    wp (iterate .exhausted (Statement.fetchRowsOnce cfg reconnect statement r) bound (r, reslist))
      (fun delivered after => delivered = some (reslist ++ ahead.toList ++ rows) ∧
        Cursor cfg statement none none later after) noThrow noHalt world := by
  induction rows generalizing ahead reslist bound world with
  | nil =>
    obtain ⟨bound, rfl⟩ := Nat.exists_eq_add_of_lt enough
    refine wp_iterate_succ.mpr ?_
    rw [Statement.fetchRowsOnce, if_neg (by omega), wp_bind, wp_isException, cursor.quiet,
      if_neg (by simp), wp_bind]
    refine wp_mono_ok (wp_fetchRow_cursor cursor) ?_
    rintro _ middle ⟨delivers, cursorMiddle⟩
    rw [delivers, wp_bind]
    refine wp_mono_ok (wp_next_opened plays positive cursorMiddle) ?_
    rintro _ after ⟨rfl, took⟩
    rw [if_neg (by simp), List.append_nil]
    exact ⟨rfl, took⟩
  | cons first rows inductionHypothesis =>
    obtain ⟨bound, rfl⟩ := Nat.exists_eq_add_of_lt enough
    refine wp_iterate_succ.mpr ?_
    rw [Statement.fetchRowsOnce, if_neg (by omega), wp_bind, wp_isException, cursor.quiet,
      if_neg (by simp), wp_bind]
    refine wp_mono_ok (wp_fetchRow_cursor cursor) ?_
    rintro _ middle ⟨delivers, cursorMiddle⟩
    rw [delivers, wp_bind]
    refine wp_mono_ok (wp_next_opened plays positive cursorMiddle) ?_
    rintro _ after ⟨rfl, took⟩
    rw [if_pos (by simp), if_neg (by omega), wp_pure]
    refine wp_mono_ok (inductionHypothesis took (reslist ++ ahead.toList)
      (show rows.length < rows.length + 1 + bound by omega)) ?_
    rintro _ last ⟨rfl, cursorLast⟩
    exact ⟨by rw [Option.toList_some, List.append_assoc _ [first] rows]; rfl, cursorLast⟩

/-- `fetch_rows` without a limit delivers all rows of an open result. -/
theorem wp_fetchRows_opened (plays : cfg.lib = CtLib.play)
    (cursor : Cursor cfg statement ahead (some rows) later world)
    (enough : rows.length < cfg.fuel) {r : Int} (unlimited : r ≤ 0) :
    wp (Statement.fetchRows cfg reconnect statement r)
      (fun delivered after => delivered = some (ahead.toList ++ rows) ∧
        Cursor cfg statement none none later after) noThrow noHalt world := by
  obtain ⟨wrap, id, cmd, held, valid, -⟩ := cursor.reads
  rw [Statement.fetchRows, wp_bind, Statement.checkValid, wp_bind, wp_getModuleWrap_some held,
    if_pos valid, wp_pure, if_neg (by simp)]
  exact wp_iterate_fetchRowsOnce plays cursor (by omega) unlimited [] enough

end Statement

/-! ### Executing a statement -/

section Executing

variable {cfg : Config Playing} {statement : StatementId} {reconnect : Reconnect Playing}
  {id : CommandId} {cmd : Command} {env : Playing} {base world : World Playing}

/-- Binding the parameters reads nothing of the script. -/
theorem wp_setParamsFrom_play (plays : cfg.lib = CtLib.play) (holds : cmd.mCmd.isSome)
    (args : Option (List QoreValue)) (letters : List Char) (index : Nat)
    (read : ReadTo id cmd env base world) :
    wpOk (setParamsFrom cfg id args letters index) (fun _ after => ReadTo id cmd env base after)
      world := by
  have bound : ∀ {world : World Playing} (binding : Binding) (index : Nat),
      ReadTo id cmd env base world → wpOk (ctParam cfg id index binding)
        (fun _ after => ReadTo id cmd env base after) world := by
    intro world binding index read
    rw [wpOk, ctParam, wp_bind, wp_getCommand_some read.commands, wp_bind]
    exact wp_mono_ok (wpOk_of_wp (read.call plays holds rfl)) fun _ _ post => post.2
  induction letters generalizing index world with
  | nil => exact read
  | cons letter letters inductionHypothesis =>
    rw [setParamsFrom.eq_def]
    split
    · rename_i same
      cases same
    · rename_i same
      cases same
      exact inductionHypothesis _ read
    · rename_i same
      cases same
      rw [wpOk, wp_bind, wp_get]
      split
      · rw [wp_bind]
        refine wp_mono_ok (bound _ _ read) fun _ middle read => ?_
        rw [wp_bind, wp_when, wp_doException]
        exact ⟨fun _ => trivial, fun _ => inductionHypothesis _ read⟩
      · rw [wp_bind]
        exact bound _ _ read
      · rw [wp_doException]
        trivial
      · trivial

/-- A command that was sent and has read nothing yet, beside the state before it was set up. -/
structure SentOn (id : CommandId) (world after : World Playing) : Prop where
  command : ∃ cmd, after.commands id = some cmd ∧ cmd.mCmd.isSome ∧ cmd.lastRes = .resNone ∧
    cmd.colinfo.dirty = true
  made : world.nextCommand ≤ id
  env : after.env = world.env
  connection : after.connection = world.connection
  statements : after.statements = world.statements
  isOpen : after.isOpen = world.isOpen
  quiet : after.xsink = world.xsink

/-- Reading a command that was sent leaves the rest as it is. -/
theorem SentOn.read {middle after : World Playing} (sent : SentOn id world middle)
    (read : ReadTo id cmd world.env middle after) (holds : cmd.mCmd.isSome)
    (waits : cmd.lastRes = .resNone) (dirty : cmd.colinfo.dirty = true) :
    SentOn id world after := by
  obtain ⟨_, _, _, rfl⟩ := read
  exact ⟨⟨cmd, Function.update_self _ _ _, holds, waits, dirty⟩, sent.made, rfl, sent.connection,
    sent.statements, sent.isOpen, sent.quiet⟩

/-- Steps that release a command and leave everything else that an execution needs. -/
structure Released (old : Option CommandId) (world after : World Playing) : Prop where
  env : after.env = world.env
  connection : after.connection = world.connection
  statements : after.statements = world.statements
  isOpen : after.isOpen = world.isOpen
  commands : ∀ id ∉ old, after.commands id = world.commands id
  nextCommand : after.nextCommand = world.nextCommand
  sink : SinkKept world after

namespace Released

variable {old : Option CommandId} {middle after : World Playing}

theorem refl (world : World Playing) : Released old world world :=
  ⟨rfl, rfl, rfl, rfl, fun _ _ => rfl, rfl, id⟩

theorem trans (first : Released old world middle) (second : Released old middle after) :
    Released old world after where
  env := second.env.trans first.env
  connection := second.connection.trans first.connection
  statements := second.statements.trans first.statements
  isOpen := second.isOpen.trans first.isOpen
  commands id other := (second.commands id other).trans (first.commands id other)
  nextCommand := second.nextCommand.trans first.nextCommand
  sink raised := second.sink (first.sink raised)

instance : Std.Refl (Released old) := ⟨refl⟩

instance : IsTrans (World Playing) (Released old) := ⟨fun _ _ _ => trans⟩

theorem of_call (plays : cfg.lib = CtLib.play) {handle : Option Handle} {call : CtCall}
    (site : Site)
    (releases : call = .cancel handle ∨ call = .cmdDrop handle) (world : World Playing) :
    Released old world (world.answered cfg.lib site call) :=
  ⟨reply_play_env plays releases _, rfl, rfl, rfl, fun _ _ => rfl, rfl, id⟩

theorem of_command (world : World Playing) (cmd : Option Command) :
    Released (some id) world { world with commands := Function.update world.commands id cmd } :=
  ⟨rfl, rfl, rfl, rfl, fun _ other => Function.update_of_ne (fun same =>
    other (congrArg some same.symm)) _ _, rfl, fun raised => raised⟩

theorem destroyStable (plays : cfg.lib = CtLib.play) :
    DestroyStable cfg id (Released (some id)) StopsAnyhow where
  raise _ _ _ := ⟨rfl, rfl, rfl, rfl, fun _ _ => rfl, rfl, fun _ => List.cons_ne_nil _ _⟩
  discard _ := ⟨rfl, rfl, rfl, rfl, fun _ _ => rfl, rfl, fun raised => raised⟩
  halts _ _ _ := trivial
  clear world _ _ := of_call plays .clear (.inl rfl) world
  terminated _ _ _ := trivial
  drop world _ := of_call plays .other (.inr rfl) world
  handle world := of_command world _
  remove world := of_command world none

theorem keeps_destroyOption (plays : cfg.lib = CtLib.play) (old : Option CommandId) :
    Keeps (Released old) StopsAnyhow (destroyOption cfg old) := by
  cases old with
  | none => exact keeps_pure ()
  | some id => exact (destroyStable plays).keeps_destroy

theorem keeps_cancel (plays : cfg.lib = CtLib.play) (id : CommandId) :
    Keeps (Released (some id)) StopsAnyhow (Command.cancel cfg id) := by
  have base : BaseStable (Released (some id)) StopsAnyhow := (destroyStable plays).toBaseStable
  refine base.keeps_getCommand_then fun cmd => ?_
  split
  · exact keeps_pure _
  · refine keeps_bind (keeps_modify fun world => of_command world _) fun _ => ?_
    refine base.keeps_getCommand_then fun cmd => keeps_bind (base.keeps_assert _ _) fun _ => ?_
    exact keeps_bind (fun world => of_call plays .cancel (.inl rfl) world) fun _ => keeps_pure _

end Released

theorem wp_create_play (plays : cfg.lib = CtLib.play) (world : World Playing) :
    wp (create cfg) (fun id after => SentOn id world after) noThrow noHalt world := by
  have allocated : cfg.lib.reply (.cmdAlloc world.nextHandle) world.env = ({}, world.env) := by
    rw [plays]
    rfl
  rw [create, wp_bind, wp_get, wp_bind, wp_ctCall, wp_bind, wp_modify, wp_bind, wp_when, allocated]
  refine ⟨fun failed => absurd rfl failed, fun _ => ?_⟩
  exact ⟨⟨_, Function.update_self _ _ _, rfl, rfl, rfl⟩, le_rfl, congrArg Prod.snd allocated,
    rfl, rfl, rfl, rfl⟩

/-- A new command is bound and sent. -/
theorem wp_bindAndSend_play (plays : cfg.lib = CtLib.play) (query : SybaseQuery)
    (args : Option (List QoreValue)) {created : World Playing} (made : SentOn id world created) :
    wpOk (do
        bindQuery cfg id query args
        sendOrReconnect cfg reconnect id)
      (fun sent after => sent = true ∧ SentOn id world after) created := by
  obtain ⟨cmd, held, holds, waits, dirty⟩ := made.command
  have read : ReadTo id cmd world.env created created := made.env ▸ readTo_refl held
  have send : ∀ {cmd : Command} {bound : World Playing}, ReadTo id cmd world.env created bound →
      cmd.mCmd.isSome → cmd.lastRes = .resNone → cmd.colinfo.dirty = true →
      wpOk (sendOrReconnect cfg reconnect id)
        (fun sent after => sent = true ∧ SentOn id world after) bound := by
    intro cmd bound read holds waits dirty
    rw [wpOk, sendOrReconnect, wp_tryCatch, wp_bind, Command.send, wp_bind,
      wp_getCommand_some read.commands, wp_bind]
    refine wp_mono (read.call plays holds rfl) ?_ (fun _ _ absent => absent.elim)
      fun _ _ absent => absent.elim
    rintro _ after ⟨rfl, read⟩
    rw [wp_when]
    exact ⟨fun failed => absurd rfl failed, fun _ => ⟨rfl, made.read read holds waits dirty⟩⟩
  rw [wpOk, wp_bind, bindQuery, wp_bind]
  refine wp_mono_ok (wpOk_of_wp (read.modify _)) fun _ _ read => ?_
  rw [wp_bind, initiateLanguageCommand, wp_bind, wp_assert]
  refine ⟨fun _ => trivial, fun _ => ?_⟩
  rw [wp_bind, wp_getCommand_some read.commands, wp_bind]
  refine wp_mono_ok (wpOk_of_wp (read.call plays (by exact holds) rfl)) ?_
  rintro _ _ ⟨rfl, read⟩
  rw [wp_when, wp_doException]
  refine ⟨fun _ => trivial, fun _ => ?_⟩
  rw [wp_when]
  refine ⟨fun _ => ?_, fun _ => send read holds waits dirty⟩
  exact wp_mono_ok (wp_setParamsFrom_play plays (by exact holds) args _ 0 read) fun _ _ read =>
    send read holds waits dirty

/-- Sending a new command reads nothing of the script. -/
theorem wp_setupCommand_play (plays : cfg.lib = CtLib.play) (cmdText : Text)
    (args : Option (List QoreValue)) (raw : Bool) (world : World Playing) :
    wpOk (setupCommand cfg reconnect cmdText args raw)
      (fun cmd after => match cmd with
        | none => after.xsink ≠ []
        | some id => SentOn id world after) world := by
  have initialized : wpOk (initQuery cfg cmdText args raw)
      (fun query after => query = none ∧ after.xsink ≠ [] ∨ query.isSome ∧
        after = world) world := by
    rw [wpOk, initQuery]
    split
    · rw [wp_bind, wp_assert]
      exact ⟨fun _ => trivial, fun _ => .inr ⟨rfl, rfl⟩⟩
    · rw [SybaseQuery.init]
      split
      · exact .inr ⟨rfl, rfl⟩
      · exact .inl ⟨rfl, List.cons_ne_nil _ _⟩
      · trivial
      · trivial
      · trivial
  rw [wpOk, setupCommand]
  cases cfg.fuel with
  | zero => trivial
  | succ bound =>
    refine wp_iterate_succ.mpr ?_
    rw [setupCommandOnce, wp_bind]
    refine wp_mono_ok initialized ?_
    rintro _ started (⟨rfl, raised⟩ | ⟨isSome, rfl⟩)
    · exact raised
    · obtain ⟨query, rfl⟩ := Option.isSome_iff_exists.mp isSome
      rw [wp_bind]
      refine wp_mono_ok (wpOk_of_wp (wp_create_play plays started)) fun id created made => ?_
      rw [wp_bind, wp_onThrow]
      refine wp_mono (wp_bindAndSend_play plays query args made) ?_
        (fun _ _ _ => wp_trivial _ _) fun _ _ _ => trivial
      rintro _ after ⟨rfl, sent⟩
      exact sent

/-- Canceling the command of an earlier execution. -/
theorem wp_cancelContext_released (plays : cfg.lib = CtLib.play) {statement : StatementId}
    {wrap : ModuleWrap} (held : world.statements statement = some wrap) :
    wpOk (Statement.cancelContext cfg statement)
      (fun _ after => Released wrap.m.context world after) world := by
  rw [wpOk, Statement.cancelContext, wp_bind, wp_getModuleWrap_some held]
  cases wrap.m.context with
  | none => exact Released.refl world
  | some old =>
    rw [wp_bind]
    exact wp_mono (Released.keeps_cancel plays old world) (fun _ _ released => released)
      (fun _ _ _ => trivial) fun _ _ _ => trivial

/-- An execution of a statement sends its command and announces the first result. The command of an
earlier execution is released, and the row fetched ahead then stays. -/
theorem wp_exec_play (plays : cfg.lib = CtLib.play) {statement : StatementId} {wrap : ModuleWrap}
    (held : world.statements statement = some wrap) (valid : wrap.m.valid = true)
    (older : ∀ old ∈ wrap.m.context, old < world.nextCommand)
    (isOpen : world.isOpen = true) (quiet : world.xsink = []) {onOk : World Playing → Prop}
    (announces : ∀ {wrap' : ModuleWrap} {id : CommandId} {middle : World Playing},
      middle.statements statement = some wrap' → wrap'.m = { wrap.m with context := some id } →
      SentOn id { world with statements := middle.statements } middle →
      wp (readNextResult cfg reconnect id) (fun _ after => onOk after) noThrow noHalt middle)
    (query : Option Text) (args : Option (List QoreValue)) (raw : Bool) :
    wpOk (Statement.exec cfg reconnect statement query args raw)
      (fun result after => result = 0 → onOk after) world := by
  unfold wpOk Statement.exec
  rw [wp_bind, Statement.checkValid, wp_bind, wp_getModuleWrap_some held,
    if_pos valid, wp_pure, if_neg (by simp), wp_bind]
  refine wp_mono_ok (wp_cancelContext_released plays held) fun _ canceled cancels => ?_
  rw [wp_bind, Statement.checkOpen, wp_bind, wp_get, if_pos (cancels.isOpen.trans isOpen), wp_pure]
  cases query with
  | none => trivial
  | some query =>
    rw [wp_bind]
    refine wp_mono_ok (wp_setupCommand_play plays query args raw canceled) fun cmd after post => ?_
    cases cmd with
    | none =>
      rw [wp_bind]
      refine wp_mono ((SinkKept.stable cfg).frameStable.keeps_resetContext statement none after)
        (fun _ last kept => ?_) (fun _ _ _ => trivial) fun _ _ _ => trivial
      rw [wp_bind, wp_isException, List.isEmpty_eq_false_iff.mpr (kept post)]
      exact fun zero => absurd zero (by decide)
    | some id =>
      have same : after.statements statement = some wrap := by
        rw [post.statements, cancels.statements, held]
      rw [wp_bind, Statement.resetContext, wp_bind, wp_getModuleWrap_some same, wp_bind,
        modifyStatement, wp_modifyModuleWrap]
      refine wp_mono (Released.keeps_destroyOption plays wrap.m.context _)
        (fun _ destroyed destroys => ?_) (fun _ _ _ => trivial) fun _ _ _ => trivial
      rw [wp_bind, wp_isException]
      split
      · exact fun zero => absurd zero (by decide)
      · rename_i still
        have notOld : id ∉ wrap.m.context := fun member =>
          absurd (Nat.lt_of_lt_of_le (older id member) (cancels.nextCommand ▸ post.made))
            (Nat.lt_irrefl id)
        obtain ⟨cmd, command, holds, waits, dirty⟩ := post.command
        rw [wp_bind]
        refine wp_mono_ok (wpOk_of_wp (@announces
          { wrap with m := { wrap.m with context := some id } } id destroyed ?_ rfl
          ⟨⟨cmd, (destroys.commands id notOld).trans command, holds, waits, dirty⟩,
            cancels.nextCommand ▸ post.made, destroys.env.trans (post.env.trans cancels.env),
            destroys.connection.trans (post.connection.trans cancels.connection), rfl,
            destroys.isOpen.trans (post.isOpen.trans cancels.isOpen), ?_⟩)) fun _ last kept => ?_
        · rw [destroys.statements]
          simp [same]
        · exact (by simpa using still : destroyed.xsink = []).trans quiet.symm
        · rw [wp_bind, wp_isException]
          split
          · exact fun _ => kept
          · exact fun _ => kept

end Executing

/-! ### Sequences of calls -/

/-- The calls of a statement that move through its rows. -/
inductive RowCall where
  | next
  | fetchRow
  | fetchRows (rows : Int)

section Calls

variable (cfg : Config Playing) (statement : StatementId)

/-- The rows a call delivers. -/
def RowCall.run : RowCall → Driver Playing (List Hash)
  | next => do
    let _ ← DBModuleWrap.next cfg statement
    pure []
  | fetchRow => do
    let row ← DBModuleWrap.fetchRow cfg statement
    pure row.toList
  | fetchRows rows => do
    let reslist ← DBModuleWrap.fetchRows cfg statement rows
    pure (reslist.getD [])

/-- The rows a sequence of calls delivers. Each call is made with an empty exception sink. -/
def deliver : List RowCall → Driver Playing (List Hash)
  | [] => pure []
  | call :: calls => do
    modify fun world => { world with xsink := [] }
    let first ← call.run cfg statement
    let rest ← deliver calls
    pure (first ++ rest)

/-- One pass of a loop that calls `next` and `fetch_row` until `next` is false. -/
def deliverOnce (delivered : List Hash) : Driver Playing (List Hash ⊕ List Hash) := do
  if ← DBModuleWrap.next cfg statement then do
    let row ← DBModuleWrap.fetchRow cfg statement
    pure (.inl (delivered ++ row.toList))
  else pure (.inr delivered)

/-- The rows such a loop delivers. -/
def deliverAll : Driver Playing (List Hash) :=
  iterate .exhausted (deliverOnce cfg statement) cfg.fuel []

end Calls

section Delivering

variable {cfg : Config Playing} {statement : StatementId} {world : World Playing}
  {ahead : Option Hash} {left : Option (List Hash)} {rows later : List Hash}

/-- `module_wrap` on a statement that has private data. -/
theorem wp_moduleWrap_some {σ : Type} {cfg : Config σ} {world : World σ} {wrap : ModuleWrap}
    (held : world.statements statement = some wrap) {onUnit : Unit → World σ → Prop}
    {onThrow : Error → World σ → Prop} {onHalt : Halt → World σ → Prop} :
    wp (DBModuleWrap.moduleWrap cfg statement) onUnit onThrow onHalt world ↔ onUnit () world := by
  rw [DBModuleWrap.moduleWrap, wp_bind, wp_get, held]
  exact Iff.rfl

/-- The wrapper of a method on a statement with an empty sink. -/
theorem wp_run_cursor {α : Type} {failed : α} {method : Driver Playing α}
    {onOk : α → World Playing → Prop} (cursor : Cursor cfg statement ahead left later world)
    (holds : wp method onOk noThrow noHalt world) :
    wp (DBModuleWrap.run cfg statement failed method) onOk noThrow noHalt world := by
  obtain ⟨wrap, id, cmd, held, -⟩ := cursor.reads
  rw [DBModuleWrap.run, wp_tryCatch, DBModuleWrap.runBody, wp_bind, wp_isException, cursor.quiet,
    if_neg (by simp), wp_bind, wp_moduleWrap_some held]
  exact wp_mono holds (fun _ _ post => post) (fun _ _ absent => absent.elim)
    fun _ _ absent => absent

/-- A call delivers the first rows that are left. -/
theorem wp_rowCall (plays : cfg.lib = CtLib.play)
    (cursor : Cursor cfg statement ahead left later world)
    (enough : (pendingRows ahead left later).length + 1 < cfg.fuel) (call : RowCall) :
    wp (call.run cfg statement)
      (fun delivered after => ∃ ahead' left' later', Cursor cfg statement ahead' left'
        later' after ∧ delivered ++ pendingRows ahead' left' later' = pendingRows ahead left later)
      noThrow noHalt world := by
  cases call with
  | next =>
    rw [RowCall.run, wp_bind]
    refine wp_mono_ok (wp_run_cursor cursor (wp_next_cursor plays (by omega) cursor)) ?_
    rintro _ after ⟨_, _, _, cursor', rfl, same⟩
    exact ⟨_, _, _, cursor', same⟩
  | fetchRow =>
    rw [RowCall.run, wp_bind]
    refine wp_mono_ok (wp_run_cursor cursor (wp_fetchRow_cursor cursor)) ?_
    rintro _ after ⟨delivers, cursor'⟩
    exact ⟨_, _, _, cursor', by rw [delivers]; rfl⟩
  | fetchRows r =>
    rw [RowCall.run, wp_bind]
    refine wp_mono_ok (wp_run_cursor cursor (wp_fetchRows_cursor plays cursor enough r)) ?_
    rintro _ after ⟨_, _, _, _, rfl, cursor', same⟩
    exact ⟨_, _, _, cursor', same⟩

/-- A sequence of calls delivers the first rows that are left. -/
theorem wp_deliver (plays : cfg.lib = CtLib.play)
    (cursor : Cursor cfg statement ahead left later world)
    (enough : (pendingRows ahead left later).length + 1 < cfg.fuel) (calls : List RowCall) :
    wp (deliver cfg statement calls)
      (fun delivered _ => delivered <+: pendingRows ahead left later) noThrow noHalt world := by
  induction calls generalizing ahead left later world with
  | nil => exact List.nil_prefix
  | cons call calls inductionHypothesis =>
    have still : Cursor cfg statement ahead left later { world with xsink := [] } :=
      ⟨cursor.isOpen, rfl, cursor.reads⟩
    rw [deliver, wp_bind, wp_modify, wp_bind]
    refine wp_mono_ok (wp_rowCall plays still enough call) ?_
    rintro first middle ⟨ahead', left', later', cursor', same⟩
    have fewer : (pendingRows ahead' left' later').length + 1 < cfg.fuel := by
      rw [← same, List.length_append] at enough
      omega
    rw [wp_bind]
    refine wp_mono_ok (inductionHypothesis cursor' fewer) fun rest _ isPrefix => ?_
    rw [wp_pure, ← same]
    exact (List.prefix_append_right_inj first).mpr isPrefix

/-- A loop that calls `next` and `fetch_row` delivers all rows of an open result. -/
theorem wp_iterate_deliverOnce (plays : cfg.lib = CtLib.play)
    (cursor : Cursor cfg statement none (some rows) later world) (positive : 0 < cfg.fuel)
    (delivered : List Hash) {bound : Nat} (enough : rows.length < bound) :
    wp (iterate .exhausted (deliverOnce cfg statement) bound delivered)
      (fun result _ => result = delivered ++ rows) noThrow noHalt world := by
  induction rows generalizing delivered bound world with
  | nil =>
    obtain ⟨bound, rfl⟩ := Nat.exists_eq_add_of_lt enough
    refine wp_iterate_succ.mpr ?_
    rw [deliverOnce, wp_bind]
    refine wp_mono_ok (wp_run_cursor cursor (wp_next_opened plays positive cursor)) ?_
    rintro _ after ⟨rfl, -⟩
    exact (List.append_nil delivered).symm
  | cons first rows inductionHypothesis =>
    obtain ⟨bound, rfl⟩ := Nat.exists_eq_add_of_lt enough
    refine wp_iterate_succ.mpr ?_
    rw [deliverOnce, wp_bind]
    refine wp_mono_ok (wp_run_cursor cursor (wp_next_opened plays positive cursor)) ?_
    rintro _ middle ⟨rfl, took⟩
    rw [if_pos (by simp), wp_bind]
    refine wp_mono_ok (wp_run_cursor took (wp_fetchRow_cursor took)) ?_
    rintro _ after ⟨delivers, cursor'⟩
    rw [wp_pure, delivers]
    refine wp_mono_ok (inductionHypothesis cursor' (delivered ++ [first])
      (show rows.length < rows.length + 1 + bound by omega)) ?_
    rintro _ last rfl
    rw [List.append_assoc]
    rfl

end Delivering

/-! ### Query results -/

section Queries

variable {cfg : Config Playing} {isMultiByte : Bool}

/-- How query results with their row counts are announced. -/
def queryAnnouncements (queries : List (Fetchable × Int)) : List Announcement :=
  queries.flatMap fun query => [.row query.1, .done query.2]

/-- The rows of query results. -/
def queryRows (cfg : Config Playing) (isMultiByte : Bool) (queries : List (Fetchable × Int)) :
    List Hash :=
  queries.flatMap fun query => query.1.rowHashes cfg isMultiByte none

theorem scriptRows_filter (script : List Announcement) :
    scriptRows cfg isMultiByte (script.filter Announcement.isOutput) =
      scriptRows cfg isMultiByte script := by
  induction script with
  | nil => rfl
  | cons announcement script inductionHypothesis =>
    cases announcement with
    | succeed => exact inductionHypothesis
    | _ => exact congrArg (_ ++ ·) inductionHypothesis

theorem scriptRows_queryAnnouncements (queries : List (Fetchable × Int)) :
    scriptRows cfg isMultiByte (queryAnnouncements queries) = queryRows cfg isMultiByte
      queries := by
  induction queries with
  | nil => rfl
  | cons query queries inductionHypothesis =>
    exact congrArg (query.1.rowHashes cfg isMultiByte none ++ ·) inductionHypothesis

/-- A script of query results is one in which each row result has its columns described anew. -/
theorem queryScript_of_filter {script : List Announcement} {queries : List (Fetchable × Int)}
    (filtered : script.filter Announcement.isOutput = queryAnnouncements queries)
    (wellFormed : ∀ query ∈ queries, query.1.WellFormed cfg isMultiByte)
    (enough : script.length < cfg.fuel)
    (rows : ∀ query ∈ queries, query.1.rows.length < cfg.fuel) :
    QueryScript cfg isMultiByte true script := by
  have isQuery : ∀ announcement ∈ script, announcement = .succeed ∨
      ∃ query ∈ queries, announcement = .row query.1 ∨ announcement = .done query.2 := by
    intro announcement member
    cases output : announcement.isOutput with
    | false => cases announcement <;> first | exact .inl rfl | cases output
    | true =>
      have inFilter := List.mem_filter.mpr ⟨member, output⟩
      rw [filtered] at inFilter
      obtain ⟨query, inQueries, isOf⟩ := List.mem_flatMap.mp inFilter
      exact .inr ⟨query, inQueries, by simpa using isOf⟩
  refine ⟨fun announcement member => ?_, ?_, fun announcement member result isResult => ?_, enough⟩
  · rcases isQuery announcement member with isSucceed | ⟨query, -, isRow | isDone⟩
    · exact .inr (.inr isSucceed)
    · exact .inl ⟨_, isRow⟩
    · exact .inr (.inl ⟨_, isDone⟩)
  · rw [filtered]
    clear filtered isQuery wellFormed rows
    induction queries with
    | nil => trivial
    | cons query queries inductionHypothesis =>
      exact ⟨fun _ => rfl, fun ⟨_, isRow⟩ => (nomatch isRow), inductionHypothesis⟩
  · rcases isQuery announcement member with rfl | ⟨query, inQueries, rfl | rfl⟩
    · cases isResult
    · cases isResult
      exact ⟨wellFormed query inQueries, rows query inQueries⟩
    · cases isResult

end Queries

/-- A value as a list: NOTHING as the empty list, and a value that is no list as a list of it. -/
def asList : QoreValue → List QoreValue
  | .nothing => []
  | .list elements => elements
  | value => [value]

theorem asList_rowsValue (rows : List Hash) : asList (rowsValue rows) = rows.map .hash := by
  rcases rows with _ | ⟨first, _ | ⟨second, rows⟩⟩ <;> rfl

section Executed

variable {cfg : Config Playing} {world executed : World Playing} {statement : StatementId}
  {wrap : ModuleWrap}

/-- What holds after an execution of a statement, if it succeeds. -/
theorem of_executed (onOk : World Playing → Prop) (plays : cfg.lib = CtLib.play)
    (held : world.statements statement = some wrap) (valid : wrap.m.valid = true)
    (older : ∀ old ∈ wrap.m.context, old < world.nextCommand)
    (isOpen : world.isOpen = true) (quiet : world.xsink = [])
    (announces : ∀ {wrap' : ModuleWrap} {id : CommandId} {middle : World Playing},
      middle.statements statement = some wrap' → wrap'.m = { wrap.m with context := some id } →
      SentOn id { world with statements := middle.statements } middle →
      wp (readNextResult cfg (topReconnect cfg) id) (fun _ after => onOk after) noThrow
        noHalt middle)
    (ran : DBModuleWrap.exec cfg statement world = (.ok 0, executed)) : onOk executed := by
  have post : wpOk (DBModuleWrap.exec cfg statement)
      (fun result after => result = 0 → onOk after) world := by
    rw [wpOk, DBModuleWrap.exec, wp_tryCatch, DBModuleWrap.execBody, wp_bind,
      wp_moduleWrap_some held, wp_bind, wp_getModuleWrap_some held]
    refine wp_mono (wp_exec_play plays held valid older isOpen quiet announces _ _ _)
      (fun _ _ post => post)
      (fun error after _ => ?_) fun _ _ _ => trivial
    rw [wp_bind]
    exact wp_mono_ok (wp_trivial _ _) fun _ _ _ zero => absurd zero (by decide)
  rw [wpOk, wp, ran] at post
  exact post rfl

/-- After the first execution, all rows of the script are left. -/
theorem cursor_of_executed (plays : cfg.lib = CtLib.play)
    (held : world.statements statement = some wrap) (fresh : wrap.m = Statement.create)
    (isOpen : world.isOpen = true) (quiet : world.xsink = [])
    (script : QueryScript cfg world.connection.enc.isMultiByte true world.env.script)
    (ran : DBModuleWrap.exec cfg statement world = (.ok 0, executed)) :
    ∃ left later, Cursor cfg statement none left later executed ∧
      pendingRows none left later =
        scriptRows cfg world.connection.enc.isMultiByte world.env.script := by
  refine of_executed (fun after => ∃ left later, Cursor cfg statement none left later after ∧
    pendingRows none left later =
      scriptRows cfg world.connection.enc.isMultiByte world.env.script) plays held
    (by rw [fresh]; rfl) (by rw [fresh]; nofun) isOpen quiet ?_ ran
  rw [fresh]
  rintro wrap id middle held' created ⟨⟨cmd, command, holds, waits, dirty⟩, -, env, connection, -,
    open', quiet'⟩
  have source : Source cfg middle.connection.enc.isMultiByte cmd middle.env none
      (scriptRows cfg world.connection.enc.isMultiByte world.env.script) := by
    rw [connection, env]
    exact .waiting (.inr waits) (fun _ => dirty) script
  have cursor : Cursor cfg statement none none _ middle :=
    ⟨open'.trans isOpen, quiet'.trans quiet, wrap, id, cmd, held', by rw [created]; rfl,
      by rw [created], by rw [created]; rfl, command, holds, source⟩
  refine wp_mono_ok (wp_readNextResult_source plays command holds cursor.quiet
    (Nat.lt_of_le_of_lt (Nat.zero_le _) script.enough) source) ?_
  rintro result after ⟨cmd', env', read, onHandle, -, left', later', source', same, -⟩
  have advanced := cursor.read held' (by rw [created]; rfl) (by rw [created]) read
    (onHandle ▸ holds) source'
  exact ⟨left', later', by rw [created] at advanced; exact advanced, same⟩

/-- After the first execution on a script of one query result, the rows of the open result are
left. -/
theorem cursor_of_executed_one (plays : cfg.lib = CtLib.play)
    (held : world.statements statement = some wrap) (fresh : wrap.m = Statement.create)
    (isOpen : world.isOpen = true) (quiet : world.xsink = [])
    (script : QueryScript cfg world.connection.enc.isMultiByte true world.env.script)
    {result : Fetchable} {count : Int}
    (one : world.env.script.filter Announcement.isOutput = [.row result, .done count])
    (ran : DBModuleWrap.exec cfg statement world = (.ok 0, executed)) :
    ∃ later, Cursor cfg statement none
      (some (result.rowHashes cfg world.connection.enc.isMultiByte none)) later executed := by
  refine of_executed (fun after => ∃ later, Cursor cfg statement none
    (some (result.rowHashes cfg world.connection.enc.isMultiByte none)) later after) plays held
    (by rw [fresh]; rfl) (by rw [fresh]; nofun) isOpen quiet ?_ ran
  rw [fresh]
  rintro wrap id middle held' created ⟨⟨cmd, command, holds, waits, dirty⟩, -, env, connection, -,
    open', quiet'⟩
  obtain ⟨before, rest, decomposed, succeeds, output, -⟩ := List.filter_eq_cons_iff.mp one
  have succeeds : ∀ earlier ∈ before, earlier.isOutput = false := fun earlier member =>
    Bool.eq_false_iff.mpr (succeeds earlier member)
  have enough := script.enough
  have wellFormed := (script.readable (.row result) (by simp [decomposed]) result rfl).1
  rw [decomposed] at script enough
  rw [List.length_append, List.length_cons] at enough
  obtain ⟨laterRest, -⟩ := script.tail succeeds output
  have stillQuiet : middle.xsink = [] := quiet'.trans quiet
  refine wp_mono_ok (wp_readNextResult_connection stillQuiet (wp_readNextResult_play plays holds
    (readTo_refl command) stillQuiet (.inr (.inl waits)) (env ▸ decomposed) succeeds output
    (by omega))) ?_
  rintro _ after ⟨-, read⟩
  obtain ⟨_, _, _, rfl⟩ := read
  refine ⟨scriptRows cfg world.connection.enc.isMultiByte rest, open'.trans isOpen,
    stillQuiet, wrap, id, _, held', by rw [created]; rfl, by rw [created], by rw [created]; rfl,
    Function.update_self _ _ _, holds, ?_⟩
  show Source cfg middle.connection.enc.isMultiByte _ _ _ _
  rw [connection]
  exact .opened rfl (.inl dirty) wellFormed laterRest

end Executed

/-! ### The rows of a script -/

/-- On a script of query results with values of known types, the rows that a statement delivers are
the first rows of the script, whatever the calls are. On a script of one query result, `fetch_rows`
without a limit delivers all its rows, and so does a loop that calls `next` and `fetch_row`; they
are the rows `readOutput` returns for the script, provided that a result without rows reports no
rows. -/
theorem delivers_queryRows (cfg : Config Playing) {world executed : World Playing}
    {statement : StatementId} {wrap : ModuleWrap} {queries : List (Fetchable × Int)}
    (plays : cfg.lib = CtLib.play) (held : world.statements statement = some wrap)
    (fresh : wrap.m = Statement.create) (isOpen : world.isOpen = true) (quiet : world.xsink = [])
    (script : world.env.script.filter Announcement.isOutput = queryAnnouncements queries)
    (wellFormed : ∀ query ∈ queries, query.1.WellFormed cfg world.connection.enc.isMultiByte)
    (enough : world.env.script.length < cfg.fuel ∧
      (queryRows cfg world.connection.enc.isMultiByte queries).length + 1 < cfg.fuel)
    (ran : DBModuleWrap.exec cfg statement world = (.ok 0, executed)) :
    (∀ calls, ∃ delivered after, deliver cfg statement calls executed = (.ok delivered, after) ∧
      delivered <+: queryRows cfg world.connection.enc.isMultiByte queries) ∧
    ∀ result count, queries = [(result, count)] →
      (∀ r ≤ 0, ∃ after, deliver cfg statement [.fetchRows r] executed =
        (.ok (result.rowHashes cfg world.connection.enc.isMultiByte none), after)) ∧
      (∃ after, deliverAll cfg statement executed =
        (.ok (result.rowHashes cfg world.connection.enc.isMultiByte none), after)) ∧
      ((result.rows = [] → count ≤ 0) → ∀ (reconnect : Reconnect Playing) (cols : Bool)
        (reading : World Playing) (id : CommandId) (query : SybaseQuery),
        Waiting id query true world.env.script reading reading → reading.xsink = [] →
        reading.connection.enc = world.connection.enc →
          ∃ value after, readOutput cfg reconnect id true cols false reading = (.ok value, after) ∧
            asList value =
              (result.rowHashes cfg world.connection.enc.isMultiByte none).map .hash) := by
  have rows : ∀ query ∈ queries, query.1.rows.length < cfg.fuel := by
    intro query member
    obtain ⟨before, later, rfl⟩ := List.append_of_mem member
    have total := enough.2
    simp only [queryRows, List.flatMap_append, List.flatMap_cons, List.length_append,
      Fetchable.rowHashes, Fetchable.rowValues, List.length_map] at total
    omega
  have queryScript := queryScript_of_filter script wellFormed enough.1 rows
  have all : scriptRows cfg world.connection.enc.isMultiByte world.env.script =
      queryRows cfg world.connection.enc.isMultiByte queries := by
    rw [← scriptRows_filter, script, scriptRows_queryAnnouncements]
  refine ⟨fun calls => ?_, ?_⟩
  · obtain ⟨left, later, cursor, pending⟩ :=
      cursor_of_executed plays held fresh isOpen quiet queryScript ran
    rw [all] at pending
    exact returns_of_wp (pending ▸ wp_deliver plays cursor (pending ▸ enough.2) calls)
  · rintro result count rfl
    obtain ⟨later, cursor⟩ :=
      cursor_of_executed_one plays held fresh isOpen quiet queryScript script ran
    have fewer : (result.rowHashes cfg world.connection.enc.isMultiByte none).length <
        cfg.fuel := by
      simpa [Fetchable.rowHashes, Fetchable.rowValues] using rows _ List.mem_cons_self
    refine ⟨fun r unlimited => ?_, ?_,
      fun count' reconnect cols reading id query waiting quiet' enc =>
      ?_⟩
    · have one : wp (deliver cfg statement [.fetchRows r]) (fun delivered _ =>
          delivered = result.rowHashes cfg world.connection.enc.isMultiByte none) noThrow noHalt
          executed := by
        have still : Cursor cfg statement none
            (some (result.rowHashes cfg world.connection.enc.isMultiByte none)) later
            { executed with xsink := [] } := ⟨cursor.isOpen, rfl, cursor.reads⟩
        rw [deliver, wp_bind, wp_modify, wp_bind, RowCall.run, wp_bind]
        refine wp_mono_ok (wp_run_cursor still (wp_fetchRows_opened plays still fewer unlimited)) ?_
        rintro _ after ⟨rfl, -⟩
        exact List.append_nil _
      obtain ⟨_, after, run, rfl⟩ := returns_of_wp one
      exact ⟨after, run⟩
    · obtain ⟨_, after, run, rfl⟩ := returns_of_wp
        (wp_iterate_deliverOnce plays cursor (by omega) [] fewer)
      exact ⟨after, run⟩
    · have command : ∀ command ∈ [(⟨some result, [], count⟩ : CommandScript)],
          command.WellFormed cfg reading.connection.enc.isMultiByte := by
        rintro command member
        obtain rfl := List.mem_singleton.mp member
        refine ⟨fun other member => ?_, by simp [CommandScript.paramResults],
          fun other isRow none _ => ?_⟩
        · obtain rfl := List.mem_singleton.mp member
          exact enc ▸ wellFormed _ List.mem_cons_self
        · obtain rfl := Option.some_inj.mp isRow
          exact count' none
      have fewerRows : ∀ command ∈ [(⟨some result, [], count⟩ : CommandScript)],
          ∀ other ∈ command.results, other.rows.length < cfg.fuel := by
        rintro command member other inResults
        obtain rfl := List.mem_singleton.mp member
        obtain rfl := List.mem_singleton.mp inResults
        exact rows _ List.mem_cons_self
      obtain ⟨value, after, run, rfl⟩ :=
        returns_of_wp (@wp_readOutput_commands cfg reconnect reading id
        query world.env.script [⟨some result, [], count⟩] cols plays quiet' waiting script command
        enough.1 fewerRows)
      refine ⟨_, after, run, ?_⟩
      have one : [(⟨some result, [], count⟩ : CommandScript)].flatMap
          (CommandScript.queries cfg reading.connection.enc.isMultiByte) =
          [result.value cfg world.connection.enc.isMultiByte none] := by
        simp [CommandScript.queries, CommandScript.queriesAs, enc]
      rw [one]
      exact asList_rowsValue _

/-- A driver whose ct-lib plays scripts. -/
def playConfig : Config Playing := Config.sample CtLib.play true 10

/-- A prepared statement, and a command that was sent, on the script of one query result. -/
def preparedWorld (result : Fetchable) (count : Int) : World Playing :=
  { World.opened ⟨⟨[], []⟩, -1, [.row result, .done count], 0⟩ with
    statements := Function.update (fun _ => none) 0
      (some ⟨Statement.create, some (text "select 1"), false, none⟩)
    commands := Function.update (fun _ => none) 7
      (some ⟨some ⟨[], [], []⟩, some 7, -1, .resNone, ⟨true, []⟩, []⟩) }

/-- The state after the statement was executed. -/
def executedWorld (result : Fetchable) (count : Int) : World Playing :=
  (DBModuleWrap.exec playConfig 0 (preparedWorld result count)).2

theorem delivers_queryRows_sample : ∃ delivered after,
    deliver playConfig 0 [.next, .fetchRow] (executedWorld ⟨sampleColumns, [sampleRow]⟩ 1) =
      (.ok delivered, after) ∧
    delivered <+: queryRows playConfig true [(⟨sampleColumns, [sampleRow]⟩, 1)] := by
  have wellFormed : ∀ query ∈ [((⟨sampleColumns, [sampleRow]⟩, 1) : Fetchable × Int)],
      query.1.WellFormed playConfig true := by
    intro query member
    obtain rfl := List.mem_singleton.mp member
    exact ⟨by simp [sampleColumns], by simp; rfl⟩
  exact (@delivers_queryRows playConfig (preparedWorld ⟨sampleColumns, [sampleRow]⟩ 1) _ 0 _
    _ rfl rfl rfl rfl rfl rfl wellFormed (by decide) rfl).1 [.next, .fetchRow]

/-- A column of a type the driver does not know. -/
def unknownColumn : Datafmt := ⟨text "a", .other 99, .other 99, 0, 8, .unused, 1⟩

/-- Two rows of such a column: a value, and SQL NULL. -/
def unknownRows : Fetchable := ⟨[unknownColumn], [[⟨[1], 1, 0⟩], [⟨[], 0, -1⟩]]⟩

/-- Is a row one SQL NULL? -/
def isNullRow : Hash → Bool
  | [(_, .null)] => true
  | _ => false

theorem exists_of_isNullRow {row : Hash} (isNull : isNullRow row = true) :
    ∃ key, row = [(key, .null)] := by
  unfold isNullRow at isNull
  split at isNull
  · exact ⟨_, rfl⟩
  · cases isNull

/-- A row with a value of unknown type is lost, and the row after it is delivered. For a result
without rows that reports five rows, `fetch_rows` delivers nothing where `readOutput` returns a
hash. -/
theorem not_delivers_queryRows :
    (∃ key after, deliver playConfig 0 [.next, .next, .fetchRow] (executedWorld unknownRows 2) =
        (.ok [[(key, .null)]], after) ∧
      ¬[[(key, QoreValue.null)]] <+: queryRows playConfig true [(unknownRows, 2)]) ∧
    (∃ after, deliver playConfig 0 [.fetchRows 0] (executedWorld ⟨[unknownColumn], []⟩ 5) =
      (.ok [], after)) ∧
    (∃ h after, readOutput playConfig (topReconnect playConfig) 7 true false false
      (preparedWorld ⟨[unknownColumn], []⟩ 5) = (.ok (.hash h), after)) := by
  refine ⟨?_, ?_, ?_⟩
  · obtain ⟨delivered, ran, checks⟩ := exists_returned (show
      (deliver playConfig 0 [.next, .next, .fetchRow] (executedWorld unknownRows 2)).1.returns
        (fun delivered => delivered.length == 1 && delivered.all isNullRow) =
          true by decide +kernel)
    obtain ⟨one, areNull⟩ := Bool.and_eq_true_iff.mp checks
    obtain ⟨row, rfl⟩ := List.length_eq_one_iff.mp (beq_iff_eq.mp one)
    obtain ⟨key, rfl⟩ := exists_of_isNullRow (List.all_eq_true.mp areNull row List.mem_cons_self)
    refine ⟨key, _, ran, ?_⟩
    intro isPrefix
    have first : [(key, QoreValue.null)] =
        (columnKeys none (unknownRows.described playConfig true)).zip
        [] := (List.cons_prefix_cons.mp isPrefix).1
    simp at first
  · obtain ⟨delivered, ran, isEmpty⟩ := exists_returned (show
      (deliver playConfig 0 [.fetchRows 0] (executedWorld ⟨[unknownColumn], []⟩ 5)).1.returns
        List.isEmpty = true by decide +kernel)
    rw [List.isEmpty_iff.mp isEmpty] at ran
    exact ⟨_, ran⟩
  · obtain ⟨value, ran, isHash⟩ := exists_returned (show
      (readOutput playConfig (topReconnect playConfig) 7 true false false
        (preparedWorld ⟨[unknownColumn], []⟩ 5)).1.returns (·.getTypeName == "hash") = true by
          decide +kernel)
    cases value with
    | hash h => exact ⟨h, _, ran⟩
    | _ => cases isHash

end Sybase
