/-
This file proves that a statement does what the reader does. Each call of the driver
on a script returns what the call of the reader returns, and leaves the state the
reader is in; where the reader cannot read a row, the driver leaves an exception.
-/

import SybaseDriver.Cursor
import SybaseDriver.Reader

namespace Sybase

open Program Command Connection

/-! ### Rows that cannot be read -/

section Failing

variable {σ : Type} {cfg : Config σ} {world : World σ}

/-- Reading a value leaves an exception where there was one, or where its type is unknown. -/
theorem wp_getValue_then {α : Type} {datafmt : Datafmt} {cell : Cell}
    {next : QoreValue → Driver σ α} {failed : α} {onOk : α → World σ → Prop}
    (raised : ∀ after : World σ, after.xsink ≠ [] → onOk failed after)
    (rest : ∀ value after, decode cfg datafmt cell = .value value → Logged world after →
      after.xsink = [] → wpOk (next value) onOk after) :
    wpOk (do
      let value ← getValue cfg datafmt cell
      if ← isException then pure failed else next value) onOk world := by
  rw [wpOk, wp_bind, getValue, wp_bind, wp_modify]
  cases decoded : decode cfg datafmt cell with
  | value value =>
    rw [wp_pure, wp_bind, wp_isException]
    split
    · rename_i isRaised
      exact raised _ (by simpa using isRaised)
    · rename_i quiet
      exact rest value _ decoded ⟨_, rfl⟩ (by simpa using quiet)
  | exception exception =>
    rw [wp_bind, wp_raiseException, wp_pure, wp_bind, wp_isException]
    exact raised _ (List.cons_ne_nil _ _)
  | undefined => trivial

/-- A row with a value that does not decode is not read as a hash. -/
theorem wp_outputBuffersToHashFrom_fails (ph : Option (List Text)) {columns : List Datafmt}
    {buffers : List OutputValueBuffer} {index : Nat} {result : Hash}
    (length : buffers.length = columns.length)
    (fails : decodeCells cfg columns (buffers.map OutputValueBuffer.cell) = none) :
    wpOk (outputBuffersToHashFrom cfg ph columns buffers index result)
      (fun _ after => after.xsink ≠ []) world := by
  induction columns generalizing buffers index result world with
  | nil =>
    rw [List.eq_nil_of_length_eq_zero length] at fails
    cases fails
  | cons datafmt columns inductionHypothesis =>
    obtain ⟨buffer, buffers, rfl⟩ := List.exists_cons_of_length_eq_add_one length
    rw [outputBuffersToHashFrom]
    refine wp_getValue_then (fun _ raised => raised) fun value after decoded _ _ => ?_
    rw [List.map_cons, decodeCells, decoded] at fails
    have restFails := Option.map_eq_none_iff.mp fails
    rw [wpOk, wp_bind, assign]
    split
    · exact inductionHypothesis (Nat.succ.inj length) restFails
    · trivial

/-- A row with a value that does not decode is not appended to the columns. -/
theorem wp_appendFrom_fails {columns : List Datafmt} {buffers : List OutputValueBuffer} {h : Hash}
    (length : buffers.length = columns.length)
    (fails : decodeCells cfg columns (buffers.map OutputValueBuffer.cell) = none) :
    wpOk (appendFrom cfg columns buffers h)
      (fun _ after => after.xsink ≠ []) world := by
  induction columns generalizing buffers h world with
  | nil =>
    rw [List.eq_nil_of_length_eq_zero length] at fails
    cases fails
  | cons datafmt columns inductionHypothesis =>
    obtain ⟨buffer, buffers, rfl⟩ := List.exists_cons_of_length_eq_add_one length
    rw [appendFrom.eq_def]
    split
    · rename_i none
      cases none
    · rename_i same same'
      cases same
      cases same'
      refine wp_getValue_then (fun _ raised => raised) fun value after decoded _ _ => ?_
      rw [List.map_cons, decodeCells, decoded] at fails
      rw [wpOk, wp_bind]
      exact wp_mono_ok (inductionHypothesis (Nat.succ.inj length) (Option.map_eq_none_iff.mp fails))
        fun _ _ raised => raised
    · trivial

/-- A program whose first part leaves an exception, where what follows keeps it. -/
theorem wpOk_fails {α β : Type} {first : Driver σ α} {next : α → Driver σ β}
    (fails : wpOk first (fun _ after => after.xsink ≠ []) world)
    (kept : ∀ value, Keeps SinkKept StopsAnyhow (next value)) :
    wpOk (do let value ← first; next value) (fun _ after => after.xsink ≠ []) world := by
  rw [wpOk, wp_bind]
  refine wp_mono_ok fails fun value middle raised => ?_
  exact wp_mono (kept value middle) (fun _ _ kept => kept raised) (fun _ _ _ => trivial)
    fun _ _ _ => trivial

end Failing

/-! ### Commands -/

/-- The columns of a command are described and bound as the bindings say. -/
structure Bound (cmd : Command) (bindings : Bindings) : Prop where
  described : Described cmd bindings.columns
  cells : cmd.outBuffers.map OutputValueBuffer.cell = bindings.cells
  nonempty : bindings.columns ≠ []

/-- A command, with ct-lib, is in the state of a reader. -/
structure Serves (cmd : Command) (env : Playing) (reader : Reader) : Prop where
  holds : cmd.mCmd.isSome
  kind : cmd.lastRes = reader.kind
  refresh : reader.bindings = none → cmd.colinfo.needRefresh = true
  bound : ∀ bindings, reader.bindings = some bindings → Bound cmd bindings
  boundNow : ∀ bindings, reader.bindings = some bindings →
    if bindings.current then bindings.columns.length ≤ env.bound else env.bound = 0
  current : env.current = reader.current
  script : env.script = reader.script

/-- A program leaves a command in the state of the reader after a step, or an exception where the
reader's step fails. -/
def StepsTo {α : Type} (id : CommandId) (program : Driver Playing α) (step : Option (α × Reader))
    (world : World Playing) : Prop :=
  match step with
  | none => wpOk program (fun _ after => after.xsink ≠ []) world
  | some (value, reader) => wp program (fun read after => read = value ∧
      ∃ cmd env, ReadTo id cmd env world after ∧ Serves cmd env reader) noThrow noHalt world

section Commands

variable {cfg : Config Playing} {id : CommandId} {cmd : Command} {world : World Playing}
  {reader : Reader}

theorem map_cell_storeCells (buffers : List OutputValueBuffer) (row : List Cell) :
    (storeCells buffers row).map OutputValueBuffer.cell =
      overlay (buffers.map OutputValueBuffer.cell) row := by
  induction buffers generalizing row with
  | nil => rfl
  | cons buffer buffers inductionHypothesis =>
    cases row with
    | nil => rfl
    | cons cell row => exact congrArg (cell :: ·) (inductionHypothesis row)

theorem overlay_take {cells row : List Cell} {count : Nat} (enough : cells.length ≤ count) :
    overlay cells (row.take count) = overlay cells row := by
  induction cells generalizing row count with
  | nil => rw [overlay.eq_def, overlay.eq_def]
  | cons cell cells inductionHypothesis =>
    obtain ⟨count, rfl⟩ := Nat.exists_eq_add_of_lt enough
    cases row with
    | nil => rfl
    | cons first row =>
      exact congrArg (first :: ·) (inductionHypothesis (Nat.le_add_right _ _))

/-- A row is stored in the buffers that are bound. -/
theorem Bound.store {bindings : Bindings} {env : Playing} (bound : Bound cmd bindings)
    (boundNow : if bindings.current then bindings.columns.length ≤ env.bound else env.bound = 0)
    (row : List Cell) : Bound (store cmd (env.stored row)) (bindings.store row) := by
  have cells : (storeCells cmd.outBuffers (env.stored row)).map OutputValueBuffer.cell =
      (bindings.store row).cells := by
    rw [map_cell_storeCells, bound.cells, Bindings.store, Playing.stored]
    have length : bindings.cells.length = bindings.columns.length := by
      rw [← bound.cells, List.length_map, bound.described.buffers]
    split at boundNow
    · rename_i current
      rw [if_pos current]
      exact overlay_take (length.trans_le boundNow)
    · rename_i expired
      rw [if_neg expired, boundNow, List.take_zero]
      cases bindings.cells <;> rfl
  have length : ∀ (buffers : List OutputValueBuffer) (row : List Cell),
      (storeCells buffers row).length = buffers.length := by
    intro buffers
    induction buffers with
    | nil => exact fun _ => rfl
    | cons buffer buffers inductionHypothesis =>
      intro row
      cases row with
      | nil => rfl
      | cons cell row => exact congrArg Nat.succ (inductionHypothesis row)
  exact ⟨⟨bound.described.colinfo, (length _ _).trans bound.described.buffers⟩, cells,
    bound.nonempty⟩

/-- The bindings do not depend on the result read last. -/
theorem Bound.kind {bindings : Bindings} (bound : Bound cmd bindings) (kind : ResType) :
    Bound { cmd with lastRes := kind } bindings :=
  ⟨⟨bound.described.colinfo, bound.described.buffers⟩, bound.cells, bound.nonempty⟩

/-- Announcing another result leaves the buffers as they are. -/
theorem Bound.expire {bindings : Bindings} (bound : Bound cmd bindings) :
    Bound cmd bindings.expire :=
  ⟨bound.described, bound.cells, bound.nonempty⟩

/-- A result without columns cannot be described. -/
theorem wp_retrColinfo_noColumns (plays : cfg.lib = CtLib.play)
    (held : world.commands id = some cmd) (holds : cmd.mCmd.isSome)
    (none : world.env.current.columns = []) :
    wpOk (retrColinfo cfg id) (fun _ _ => False) world := by
  have answers := @reply_play cfg cmd plays (.numData cmd.mCmd) holds rfl world.env
  rw [wpOk, retrColinfo, wp_bind, getColumnCount, wp_bind, wp_getCommand_some held, wp_bind,
    wp_ctCall, answers, wp_bind, wp_when]
  refine ⟨fun failed => absurd rfl failed, fun _ => ?_⟩
  rw [wp_bind, wp_when]
  refine ⟨fun _ => (wp_doException _ _).mpr trivial, fun positive => absurd ?_ positive⟩
  simp [CtLib.play, none]

/-- The columns are described where they are not known; without columns that fails. -/
theorem wp_ensureColinfo_serves (plays : cfg.lib = CtLib.play)
    (held : world.commands id = some cmd) (serves : Serves cmd world.env reader)
    (quiet : world.xsink = []) :
    ((reader.bound cfg world.connection.enc.isMultiByte).columns = [] →
      wpOk (ensureColinfo cfg id) (fun _ _ => False) world) ∧
    ((reader.bound cfg world.connection.enc.isMultiByte).columns ≠ [] →
      wp (ensureColinfo cfg id)
        (fun failed after => failed = 0 ∧ ∃ cmd' env', ReadTo id cmd' env' world after ∧
          Serves cmd' env' { reader with
            bindings := some (reader.bound cfg world.connection.enc.isMultiByte) })
        noThrow noHalt world) := by
  cases known : reader.bindings with
  | some bindings =>
    have bound := serves.bound bindings known
    have same : reader.bound cfg world.connection.enc.isMultiByte = bindings := by
      rw [Reader.bound, known]
      rfl
    rw [same]
    refine ⟨fun none => absurd none bound.nonempty, fun _ => ?_⟩
    refine wp_mono_ok (wp_ensureColinfo_described held bound.described bound.nonempty) ?_
    rintro _ _ ⟨rfl, rfl⟩
    exact ⟨rfl, cmd, _, readTo_refl held, { serves with
      refresh := by simp
      bound := fun _ same => Option.some_inj.mp same ▸ bound
      boundNow := fun _ same => Option.some_inj.mp same ▸ serves.boundNow bindings known }⟩
  | none =>
    have own : reader.bound cfg world.connection.enc.isMultiByte =
        Bindings.create (world.env.current.described cfg world.connection.enc.isMultiByte) := by
      rw [Reader.bound, known, serves.current]
      rfl
    rw [own, ensureColinfo, wpOk, wp_bind, wp_getCommand_some held, if_pos (serves.refresh known)]
    refine ⟨fun none => wp_retrColinfo_noColumns plays held serves.holds
      (List.map_eq_nil_iff.mp none), fun some => ?_⟩
    rw [wp_bind, wp_getCommand_some held, if_pos (serves.refresh known)]
    refine wp_mono_ok (wp_retrColinfo_play plays serves.holds (readTo_refl held) quiet
      (mt List.map_eq_nil_iff.mpr some)) ?_
    rintro _ after ⟨rfl, cmd', read, described, onHandle, -, lastRes, buffers⟩
    refine ⟨rfl, cmd', _, read, onHandle ▸ serves.holds, lastRes.trans serves.kind, by simp, ?_, ?_,
      serves.current, serves.script⟩
    · intro bindings same
      cases same
      refine ⟨described, ?_, some⟩
      rw [buffers, List.map_map]
      rfl
    · intro bindings same
      cases same
      exact (List.length_map _).trans_le (Nat.le_max_right _ _)

/-- A row is fetched into the buffers, or the end of the data. -/
theorem wp_fetchRowIntoBuffers_serves (plays : cfg.lib = CtLib.play) {bindings : Bindings}
    (held : world.commands id = some cmd) (serves : Serves cmd world.env reader)
    (known : reader.bindings = some bindings) :
    (reader.current.rows = [] → wp (fetchRowIntoBuffers cfg id)
      (fun more after => more = false ∧ ∃ cmd' env', ReadTo id cmd' env' world after ∧
        Serves cmd' env' { reader with kind := .resNone }) noThrow noHalt world) ∧
    ∀ row rest, reader.current.rows = row :: rest → wp (fetchRowIntoBuffers cfg id)
      (fun more after => more = true ∧ ∃ cmd' env', ReadTo id cmd' env' world after ∧
        Serves cmd' env' { reader with
          bindings := some (bindings.store row)
          current := { reader.current with rows := rest } }) noThrow noHalt world := by
  have answers := @reply_play cfg cmd plays (.fetch cmd.mCmd) serves.holds rfl world.env
  have bound := serves.bound bindings known
  refine ⟨fun none => ?_, fun row rest rows => ?_⟩
  · rw [← serves.current] at none
    refine wp_mono_ok (wp_fetchRowIntoBuffers_endData held (by simp [answers, CtLib.play, none])) ?_
    rintro _ after ⟨rfl, read⟩
    rw [answers] at read
    simp only [CtLib.play, none] at read
    exact ⟨rfl, _, _, read, { serves with
      kind := rfl
      bound := fun bindings known => (serves.bound bindings known).kind _ }⟩
  · rw [← serves.current] at rows
    refine wp_mono_ok (wp_fetchRowIntoBuffers_row held (by simp [answers, CtLib.play, rows])
      (by simp [answers, CtLib.play, rows])) ?_
    rintro _ after ⟨rfl, read⟩
    rw [answers] at read
    simp only [CtLib.play, rows] at read
    have boundNow := serves.boundNow bindings known
    refine ⟨rfl, _, _, read, serves.holds, serves.kind, by simp, ?_, ?_, ?_, serves.script⟩
    · intro stored same
      cases same
      exact bound.store boundNow row
    · intro stored same
      cases same
      exact boundNow
    · rw [← serves.current]

/-- The row in the buffers is read as a hash. -/
theorem stepsTo_outputBuffersToHash {bindings : Bindings} {env : Playing}
    (held : world.commands id = some cmd) (serves : Serves cmd env reader) (atEnv : world.env = env)
    (known : reader.bindings = some bindings) (quiet : world.xsink = []) :
    StepsTo id (outputBuffersToHash cfg id none)
      ((Reader.readCells cfg bindings.columns bindings.cells).map fun hash => (some hash, reader))
      world := by
  have bound := serves.bound bindings known
  have cells := bound.cells
  rw [Reader.readCells]
  cases decoded : decodeCells cfg bindings.columns bindings.cells with
  | none =>
    rw [Option.map_none, Option.map_none, StepsTo, outputBuffersToHash, wpOk, wp_bind,
      wp_getCommand_some held, bound.described.colinfo]
    rw [← cells] at decoded
    exact wp_outputBuffersToHashFrom_fails none bound.described.buffers decoded
  | some values =>
    rw [Option.map_some, Option.map_some, StepsTo]
    rw [← cells] at decoded
    refine wp_mono_ok (wp_outputBuffersToHash none held bound.described quiet decoded) ?_
    rintro _ after ⟨rfl, logged⟩
    exact ⟨rfl, cmd, _, atEnv ▸ logged.readTo held, serves⟩

/-- A step whose first part is a step that does not fail. -/
theorem stepsTo_bind {α β : Type} {first : Driver Playing α} {value : α}
    {next : α → Driver Playing β} {step : Option (β × Reader)}
    (steps : StepsTo id first (some (value, reader)) world)
    (rest : ∀ cmd middle, ReadTo id cmd middle.env world middle → Serves cmd middle.env reader →
      StepsTo id (next value) step middle) :
    StepsTo id (do let read ← first; next read) step world := by
  cases step with
  | none =>
    rw [StepsTo, wpOk, wp_bind]
    refine wp_mono_ok (wpOk_of_wp steps) ?_
    rintro _ middle ⟨rfl, cmd, env, read, serves⟩
    have atEnv := read.env
    subst atEnv
    exact rest cmd middle read serves
  | some result =>
    obtain ⟨final, last⟩ := result
    rw [StepsTo, wp_bind]
    refine wp_mono_ok steps ?_
    rintro _ middle ⟨rfl, cmd, env, read, serves⟩
    have atEnv := read.env
    subst atEnv
    refine wp_mono_ok (rest cmd middle read serves) ?_
    rintro _ after ⟨rfl, cmd', env', read', serves'⟩
    exact ⟨rfl, cmd', env', read.trans read', serves'⟩

/-- `command::fetch_row` takes the first row that is left, whatever the result is. -/
theorem stepsTo_fetchRow (plays : cfg.lib = CtLib.play)
    (held : world.commands id = some cmd) (serves : Serves cmd world.env reader)
    (quiet : world.xsink = []) :
    StepsTo id (Command.fetchRow cfg id none) (reader.fetch cfg world.connection.enc.isMultiByte)
      world := by
  obtain ⟨fails, describes⟩ := wp_ensureColinfo_serves plays held serves quiet
  rw [Reader.fetch]
  split
  · rename_i none
    rw [StepsTo, wpOk, Command.fetchRow, wp_bind]
    exact wp_mono_ok (fails none) fun _ _ absent => absent.elim
  · rename_i some
    rw [Command.fetchRow]
    refine stepsTo_bind (describes some) fun cmd' ready read serves' => ?_
    rw [if_neg (by simp)]
    obtain ⟨atEnd, atRow⟩ := wp_fetchRowIntoBuffers_serves plays read.commands serves' rfl
    split
    · rename_i rows
      refine stepsTo_bind (atEnd rows) fun cmd'' last read' serves'' => ?_
      rw [if_neg (by simp)]
      exact ⟨rfl, cmd'', last.env, readTo_refl read'.commands, serves''⟩
    · rename_i row rest rows
      refine stepsTo_bind (atRow row rest rows) fun cmd'' fetched read' serves'' => ?_
      rw [if_pos rfl]
      exact stepsTo_outputBuffersToHash read'.commands serves'' rfl rfl
        (read'.xsink.trans (read.xsink.trans quiet))

/-- What an announcement changes of a command. -/
theorem Serves.seen (serves : Serves cmd world.env reader) {announcement : Announcement}
    {rest : List Announcement} :
    Serves { announcement.seen cmd with lastRes := announcement.res }
      (world.env.announce announcement rest) { reader with
        kind := announcement.res
        bindings := announcement.bindingsAfter reader.bindings
        current := announcement.fetchable?.getD reader.current
        script := rest } := by
  cases announcement with
  | done count =>
    exact ⟨serves.holds, rfl,
      fun _ => by simp [Announcement.seen, Columns.needRefresh], nofun, nofun, serves.current, rfl⟩
  | succeed =>
    exact ⟨serves.holds, rfl, serves.refresh,
      fun bindings known => (serves.bound bindings known).kind _, serves.boundNow, serves.current,
      rfl⟩
  | _ =>
    refine ⟨serves.holds, rfl, fun none => serves.refresh (Option.map_eq_none_iff.mp none), ?_, ?_,
      rfl, rfl⟩
    · intro bindings known
      obtain ⟨earlier, before, rfl⟩ := Option.map_eq_some_iff.mp known
      exact ((serves.bound earlier before).kind _).expire
    · intro bindings known
      obtain ⟨earlier, before, rfl⟩ := Option.map_eq_some_iff.mp known
      rfl

/-- `connection::readNextResult` announces the next result. -/
theorem stepsTo_readNextResult (plays : cfg.lib = CtLib.play) {reconnect : Reconnect Playing}
    (held : world.commands id = some cmd) (serves : Serves cmd world.env reader)
    (quiet : world.xsink = []) (enough : reader.script.length < cfg.fuel) :
    StepsTo id (readNextResult cfg reconnect id) (some (reader.announce.kind, reader.announce))
      world := by
  rw [StepsTo]
  by_cases waits : reader.kind.waits
  · have waits' : cmd.lastRes.waits := serves.kind ▸ waits
    rcases exists_output world.env.script with succeeds | ⟨before, announcement, rest, script,
      succeeds, output⟩
    · rw [Reader.announce_end waits (serves.script ▸ succeeds)]
      refine wp_mono_ok (wp_readNextResult_connection quiet (wp_readNextResult_end plays
        serves.holds (readTo_refl held) quiet waits' succeeds (serves.script ▸ enough))) ?_
      rintro _ after ⟨rfl, read⟩
      exact ⟨rfl, _, _, read, serves.holds, rfl, serves.refresh,
        fun bindings known => (serves.bound bindings known).kind _, serves.boundNow, serves.current,
        rfl⟩
    · have same : reader.script = before ++ announcement :: rest := serves.script ▸ script
      rw [Reader.announce_output waits same succeeds output]
      rw [same, List.length_append, List.length_cons] at enough
      refine wp_mono_ok (wp_readNextResult_connection quiet (wp_readNextResult_play plays
        serves.holds (readTo_refl held) quiet waits' script succeeds output (by omega))) ?_
      rintro _ after ⟨rfl, read⟩
      exact ⟨rfl, _, _, read, serves.seen⟩
  · rw [Reader.announce_of_stays waits]
    have stays : cmd.lastRes ≠ .resDone ∧ cmd.lastRes ≠ .resNone ∧ cmd.lastRes ≠ .resRetry := by
      rw [serves.kind]
      simpa [ResType.waits] using waits
    refine wp_mono_ok (wp_readNextResult_connection quiet
      (wp_readNextResult_again held quiet stays (Nat.zero_lt_of_lt enough))) ?_
    rintro _ after ⟨rfl, read⟩
    exact ⟨serves.kind, cmd, _, read, serves⟩

/-- The values of a row read as a hash. -/
theorem map_snd_readCells {columns : List Datafmt} {cells : List Cell} {hash : Hash}
    (read : Reader.readCells cfg columns cells = some hash) :
    decodeCells cfg columns cells = some (hash.map Prod.snd) := by
  obtain ⟨values, decoded, rfl⟩ := Option.map_eq_some_iff.mp read
  have length := (columnKeys_length none columns).trans (decodeCells_length decoded).2.symm
  rw [decoded, List.map_snd_zip (by omega)]

/-- The columns with the values of one more row. -/
def withRow (ph : Option (List Text)) (columns : List Datafmt) (read : List (List QoreValue))
    (row : Hash) : Hash :=
  columnsFrom (read ++ [row.map Prod.snd]) (columnKeys ph columns) 0

/-- What a pass of the loop of `read_cols` makes of a row, or of the end of the data. -/
def columnsPass (ph : Option (List Text)) (columns : List Datafmt) (read : List (List QoreValue))
    (cnt : Int) (h : Hash) : Option Hash → (Int × Hash) ⊕ Option Hash
  | none => .inr (some h)
  | some row =>
    if cnt - 1 = 0 then .inr (some (withRow ph columns read row))
    else .inl (cnt - 1, withRow ph columns read row)

/-- One pass of the loop of `read_cols`. -/
theorem stepsTo_readColsOnce (plays : cfg.lib = CtLib.play) (ph : Option (List Text)) {cnt : Int}
    {bindings : Bindings} {read : List (List QoreValue)} {h : Hash}
    (columnsOf : ColumnsOf ph bindings.columns read h)
    (held : world.commands id = some cmd) (serves : Serves cmd world.env reader)
    (known : reader.bindings = some bindings) (quiet : world.xsink = []) (isMultiByte : Bool) :
    StepsTo id (readColsOnce cfg id ph (cnt, h))
      ((reader.fetch cfg isMultiByte).map fun (row, after) =>
        (columnsPass ph bindings.columns read cnt h row, after)) world := by
  obtain ⟨atEnd, atRow⟩ := wp_fetchRowIntoBuffers_serves plays held serves known
  have nonempty := (serves.bound bindings known).nonempty
  have bound : reader.bound cfg isMultiByte = bindings := by rw [Reader.bound, known]; rfl
  rw [Reader.fetch, bound, if_neg nonempty]
  split
  · rename_i rows
    rw [readColsOnce]
    refine stepsTo_bind (atEnd rows) fun cmd' last read serves' => ?_
    rw [if_neg (by simp)]
    refine ⟨rfl, cmd', last.env, readTo_refl read.commands, ?_⟩
    rw [← known]
    exact serves'
  · rename_i row rest rows
    rw [readColsOnce]
    refine stepsTo_bind (atRow row rest rows) fun cmd' fetched readTo serves' => ?_
    have stored := serves'.bound (bindings.store row) rfl
    rw [if_pos rfl]
    have setUp : StepsTo id (setupColumnsIf h.isEmpty id ph h)
        (some (columnsFrom read (columnKeys ph bindings.columns) 0, { reader with
          bindings := some (bindings.store row)
          current := { reader.current with rows := rest } })) fetched := by
      refine wp_mono_ok (wp_setupIfEmpty ph readTo.commands stored.described columnsOf) ?_
      rintro _ _ ⟨rfl, rfl⟩
      exact ⟨rfl, cmd', _, readTo_refl readTo.commands, serves'⟩
    refine stepsTo_bind setUp fun cmd'' ready readTo' serves'' => ?_
    have stored := serves''.bound (bindings.store row) rfl
    have quiet : ready.xsink = [] := readTo'.xsink.trans (readTo.xsink.trans quiet)
    dsimp only
    cases isRead : Reader.readCells cfg (bindings.store row).columns (bindings.store row).cells with
    | none =>
      have fails : decodeCells cfg (bindings.store row).columns
          (cmd''.outBuffers.map OutputValueBuffer.cell) = none :=
        stored.cells.symm ▸ Option.map_eq_none_iff.mp isRead
      rw [Option.map_none, Option.map_none, StepsTo]
      refine wpOk_fails ?_ fun appended => ?_
      · rw [appendBuffersToList, wpOk, wp_bind, wp_getCommand_some readTo'.commands,
          stored.described.colinfo]
        exact wp_appendFrom_fails stored.described.buffers fails
      · cases appended with
        | none => exact keeps_pure _
        | some h =>
          dsimp only
          split
          · exact keeps_pure _
          · exact keeps_pure _
    | some hash =>
      have decoded : decodeCells cfg (bindings.store row).columns
          (cmd''.outBuffers.map OutputValueBuffer.cell) = some (hash.map Prod.snd) :=
        stored.cells.symm ▸ map_snd_readCells isRead
      have appends : StepsTo id (appendBuffersToList cfg id
          (columnsFrom read (columnKeys ph bindings.columns) 0))
          (some (some (withRow ph bindings.columns read hash), { reader with
            bindings := some (bindings.store row)
            current := { reader.current with rows := rest } })) ready := by
        rw [StepsTo, appendBuffersToList, wp_bind, wp_getCommand_some readTo'.commands,
          stored.described.colinfo]
        refine wp_mono_ok (wp_appendFrom read (columnKeys ph bindings.columns) 0 quiet
          (columnKeys_length ph bindings.columns) decoded List.drop_zero) ?_
        rintro _ last ⟨rfl, logged⟩
        exact ⟨rfl, cmd'', _, logged.readTo readTo'.commands, serves''⟩
      refine stepsTo_bind appends fun kept last readTo'' keptServes => ?_
      have result := readTo_refl readTo''.commands
      by_cases last : cnt - 1 = 0
      · simp only [Option.map_some, columnsPass, if_pos last]
        exact ⟨rfl, kept, _, result, keptServes⟩
      · simp only [Option.map_some, columnsPass, if_neg last]
        exact ⟨rfl, kept, _, result, keptServes⟩

/-- The columns with the values of more rows; without one, what was there before. -/
def withRows (ph : Option (List Text)) (columns : List Datafmt) (read : List (List QoreValue))
    (h : Hash) (rows : List Hash) : Hash :=
  if rows = [] then h
  else columnsFrom (read ++ rows.map fun row => row.map Prod.snd) (columnKeys ph columns) 0

theorem withRows_cons (ph : Option (List Text)) (columns : List Datafmt)
    (read : List (List QoreValue)) (h : Hash) (row : Hash) (rows : List Hash) :
    withRows ph columns (read ++ [row.map Prod.snd]) (withRow ph columns read row) rows =
      withRows ph columns read h (row :: rows) := by
  rw [withRows, withRows, if_neg (List.cons_ne_nil _ _), List.map_cons, List.append_assoc,
    List.singleton_append]
  split
  · rename_i none
    rw [none]
    rfl
  · rfl

/-- The loop of `read_cols`, with the number of passes that are left. -/
theorem stepsTo_iterate_readColsOnce (plays : cfg.lib = CtLib.play) (ph : Option (List Text))
    {cnt : Int} {count bound : Nat} {bindings : Bindings} {read : List (List QoreValue)} {h : Hash}
    (columnsOf : ColumnsOf ph bindings.columns read h)
    (held : world.commands id = some cmd) (serves : Serves cmd world.env reader)
    (known : reader.bindings = some bindings) (quiet : world.xsink = []) (isMultiByte : Bool)
    (limited : cnt > 0 → count = cnt.toNat)
    (unlimited : ¬cnt > 0 → reader.current.rows.length < count)
    (enough : reader.current.rows.length < bound) :
    StepsTo id (iterate .exhausted (readColsOnce cfg id ph) bound (cnt, h))
      ((reader.fetchMany cfg isMultiByte count).map fun (rows, after) =>
        (some (withRows ph bindings.columns read h rows), after)) world := by
  induction count generalizing cnt bound bindings read h cmd world reader with
  | zero =>
    by_cases isLimited : cnt > 0
    · have none := limited isLimited
      omega
    · exact absurd (unlimited isLimited) (Nat.not_lt_zero _)
  | succ count inductionHypothesis =>
    obtain ⟨bound, rfl⟩ := Nat.exists_eq_add_of_lt enough
    have pass : StepsTo id (readColsOnce cfg id ph (cnt, h)) _ world :=
      stepsTo_readColsOnce plays ph columnsOf held serves known quiet isMultiByte
    rw [iterate_succ, Reader.fetchMany]
    cases fetched : reader.fetch cfg isMultiByte with
    | none =>
      rw [fetched] at pass
      refine wpOk_fails pass fun result => ?_
      have stable := ((SinkKept.stable cfg).toQuietStable.readingStable id)
      cases result with
      | inl again => exact keeps_iterate (fun _ => trivial) (stable.keeps_readColsOnce ph) _ _
      | inr columns => exact keeps_pure _
    | some result =>
      obtain ⟨row, after⟩ := result
      rw [fetched] at pass
      cases row with
      | none =>
        refine stepsTo_bind pass fun last final read serves' => ?_
        exact ⟨rfl, last, _, readTo_refl read.commands, serves'⟩
      | some row =>
        obtain ⟨stored, known', same⟩ := Reader.bound_fetch fetched
        obtain ⟨isRow, rows⟩ := Reader.rows_fetch fetched
        have columns : stored.columns = bindings.columns := by
          rw [same, Reader.bound, known]
          rfl
        refine stepsTo_bind pass fun kept final readTo serves' => ?_
        have columnsOf' : ColumnsOf ph stored.columns (read ++ [row.map Prod.snd])
            (withRow ph bindings.columns read row) := by
          rw [columns]
          exact .inl rfl
        have fewer : after.current.rows.length + 1 = reader.current.rows.length := by
          rw [rows, List.length_tail]
          have nonempty : reader.current.rows ≠ [] := by
            intro none
            rw [none] at isRow
            cases isRow
          have positive := List.length_pos_iff.mpr nonempty
          omega
        by_cases last : cnt - 1 = 0
        · have none : count = 0 := by
            have one := limited (by omega)
            omega
          subst none
          simp only [columnsPass, if_pos last, Reader.fetchMany, Option.map_some]
          exact ⟨rfl, kept, _, readTo_refl readTo.commands, serves'⟩
        · simp only [columnsPass, if_neg last]
          have rest : StepsTo id (iterate .exhausted (readColsOnce cfg id ph)
              (reader.current.rows.length + bound)
              (cnt - 1, withRow ph bindings.columns read row))
              ((after.fetchMany cfg isMultiByte count).map fun (rows, after) =>
                (some (withRows ph stored.columns (read ++ [row.map Prod.snd])
                  (withRow ph bindings.columns read row) rows), after)) final := by
            refine inductionHypothesis columnsOf' readTo.commands serves' known'
              (readTo.xsink.trans quiet) (fun isLimited => ?_) (fun unbounded => ?_) (by omega)
            · have more := limited (by omega)
              omega
            · have more := unlimited (by omega)
              omega
          rw [columns] at rest
          simp only [withRows_cons ph bindings.columns read h] at rest
          simp only [Option.map_map, Function.comp_def]
          exact rest

/-- `command::read_cols` without columns that are set up before. -/
theorem stepsTo_readCols (plays : cfg.lib = CtLib.play) (ph : Option (List Text)) (cnt : Int)
    (held : world.commands id = some cmd) (serves : Serves cmd world.env reader)
    (quiet : world.xsink = []) (enough : reader.current.rows.length < cfg.fuel) :
    StepsTo id (readCols cfg id ph cnt false)
      ((reader.fetchColumns cfg world.connection.enc.isMultiByte cnt).map fun (rows, after) =>
        (some (withRows ph (reader.bound cfg world.connection.enc.isMultiByte).columns [] [] rows),
          after)) world := by
  obtain ⟨fails, describes⟩ := wp_ensureColinfo_serves plays held serves quiet
  by_cases none : (reader.bound cfg world.connection.enc.isMultiByte).columns = []
  · rw [Reader.fetchColumns_noColumns none]
    show wpOk (readCols cfg id ph cnt false) _ world
    rw [readCols, wpOk, wp_bind]
    exact wp_mono_ok (fails none) fun _ _ absent => absent.elim
  · rw [readCols, ← Reader.fetchColumns_bound]
    refine stepsTo_bind (describes none) fun cmd' ready read serves' => ?_
    rw [if_neg (by simp)]
    have quiet : ready.xsink = [] := read.xsink.trans quiet
    have still : StepsTo id isException (some (false, { reader with
        bindings := some (reader.bound cfg world.connection.enc.isMultiByte) })) ready := by
      rw [StepsTo, wp_isException, quiet]
      exact ⟨rfl, cmd', _, readTo_refl read.commands, serves'⟩
    refine stepsTo_bind still fun cmd'' quietWorld read' serves'' => ?_
    rw [if_neg Bool.false_ne_true]
    have noSetUp : StepsTo id (setupColumnsIf false id ph []) (some ([], { reader with
        bindings := some (reader.bound cfg world.connection.enc.isMultiByte) })) quietWorld :=
      ⟨rfl, cmd'', _, readTo_refl read'.commands, serves''⟩
    refine stepsTo_bind noSetUp fun last started read'' served => ?_
    refine stepsTo_iterate_readColsOnce plays ph (.inr ⟨rfl, rfl⟩) read''.commands served rfl
      (read''.xsink.trans (read'.xsink.trans quiet)) _ (fun isLimited => if_pos isLimited)
      (fun unbounded => ?_) enough
    rw [if_neg unbounded]
    exact Nat.lt_succ_self _

end Commands

/-! ### Statements -/

/-- A statement of an open Datasource is in the state of a reader. -/
structure Follows (cfg : Config Playing) (isMultiByte : Bool) (statement : StatementId)
    (reader : Reader) (world : World Playing) : Prop where
  isOpen : world.isOpen = true
  quiet : world.xsink = []
  encoding : world.connection.enc.isMultiByte = isMultiByte
  fits : reader.Fits cfg.fuel
  reads : ∃ wrap id cmd, world.statements statement = some wrap ∧ wrap.m.valid = true ∧
    wrap.m.context = some id ∧ wrap.m.execRes = reader.ahead ∧ world.commands id = some cmd ∧
    Serves cmd world.env reader

/-- A program does what the reader does in a step: it returns the same and leaves the statement in
the same state, or it leaves an exception where the step fails. -/
def Simulates {α : Type} (cfg : Config Playing) (isMultiByte : Bool) (statement : StatementId)
    (program : Driver Playing α) (step : Option (α × Reader)) (world : World Playing) : Prop :=
  match step with
  | none => wpOk program (fun _ after => after.xsink ≠ []) world
  | some (value, reader) => wp program
      (fun returned after => returned = value ∧ Follows cfg isMultiByte statement reader after)
      noThrow noHalt world

section Statements

variable {cfg : Config Playing} {isMultiByte : Bool} {statement : StatementId}
  {reconnect : Reconnect Playing} {world after : World Playing} {reader reader' : Reader}

/-- Reading the command of a statement. -/
theorem Follows.read (follows : Follows cfg isMultiByte statement reader world) {wrap : ModuleWrap}
    {id : CommandId} {cmd : Command} {env : Playing}
    (held : world.statements statement = some wrap) (valid : wrap.m.valid = true)
    (context : wrap.m.context = some id) (ahead : wrap.m.execRes = reader'.ahead)
    (shrinks : reader.Shrinks reader') (read : ReadTo id cmd env world after)
    (serves : Serves cmd env reader') : Follows cfg isMultiByte statement reader' after := by
  obtain ⟨_, _, _, rfl⟩ := read
  exact ⟨follows.isOpen, follows.quiet, follows.encoding, shrinks.fits follows.fits, wrap, id, cmd,
    held, valid, context, ahead, Function.update_self _ _ _, serves⟩

/-- A change of the row fetched ahead. -/
theorem Follows.buffer (follows : Follows cfg isMultiByte statement reader world)
    (row : Option Hash) :
    Follows cfg isMultiByte statement { reader with ahead := row } { world with
      statements := Function.update world.statements statement
        ((world.statements statement).map fun wrap => { wrap with
          m := { wrap.m with execRes := row } }) } := by
  obtain ⟨isOpen, quiet, encoding, fits, wrap, id, cmd, held, valid, context, -, command, serves⟩ :=
    follows
  exact ⟨isOpen, quiet, encoding, ⟨fits.script, fits.rows⟩,
    { wrap with m := { wrap.m with execRes := row } }, id, cmd, by simp [held], valid, context, rfl,
    command, { serves with }⟩

/-- A step whose first part is a step that does not fail. -/
theorem simulates_bind {α β : Type} {first : Driver Playing α} {value : α}
    {next : α → Driver Playing β} {step : Option (β × Reader)}
    (simulates : Simulates cfg isMultiByte statement first (some (value, reader)) world)
    (rest : ∀ middle, Follows cfg isMultiByte statement reader middle →
      Simulates cfg isMultiByte statement (next value) step middle) :
    Simulates cfg isMultiByte statement (do let returned ← first; next returned) step world := by
  cases step with
  | none =>
    rw [Simulates, wpOk, wp_bind]
    refine wp_mono_ok (wpOk_of_wp simulates) ?_
    rintro _ middle ⟨rfl, follows⟩
    exact rest middle follows
  | some result =>
    obtain ⟨final, last⟩ := result
    rw [Simulates, wp_bind]
    refine wp_mono_ok simulates ?_
    rintro _ middle ⟨rfl, follows⟩
    exact rest middle follows

omit reader in
/-- A method that begins with checking that the statement may be used. -/
theorem wp_checkValid_then {α : Type} {failed : α} {method : Driver Playing α} {wrap : ModuleWrap}
    {onOk : α → World Playing → Prop} {onThrow : Error → World Playing → Prop}
    {onHalt : Halt → World Playing → Prop} (held : world.statements statement = some wrap)
    (valid : wrap.m.valid = true) :
    wp (do if (← Statement.checkValid statement) ≠ 0 then pure failed else method) onOk
      onThrow onHalt
      world ↔ wp method onOk onThrow onHalt world := by
  rw [wp_bind, Statement.checkValid, wp_bind, wp_getModuleWrap_some held, if_pos valid, wp_pure,
    if_neg (by simp)]

theorem simulates_checkValid {α : Type} {failed : α} {method : Driver Playing α}
    {step : Option (α × Reader)} (follows : Follows cfg isMultiByte statement reader world)
    (simulates : Simulates cfg isMultiByte statement method step world) :
    Simulates cfg isMultiByte statement
      (do if (← Statement.checkValid statement) ≠ 0 then pure failed else method) step world := by
  obtain ⟨wrap, id, cmd, held, valid, -⟩ := follows.reads
  cases step with
  | none => exact (wp_checkValid_then held valid).mpr simulates
  | some result => exact (wp_checkValid_then held valid).mpr simulates

/-- `fetch_row` delivers the row fetched ahead. -/
theorem simulates_fetchRow (follows : Follows cfg isMultiByte statement reader world) :
    Simulates cfg isMultiByte statement (Statement.fetchRow statement)
      (some (reader.ahead, { reader with ahead := none })) world := by
  obtain ⟨wrap, id, cmd, held, valid, context, ahead, -⟩ := follows.reads
  rw [Simulates, Statement.fetchRow, wp_bind, wp_getModuleWrap_some held]
  exact ⟨ahead, follows.buffer none⟩

/-- A row is fetched ahead where there is none. -/
theorem simulates_fetchAhead (plays : cfg.lib = CtLib.play)
    (follows : Follows cfg isMultiByte statement reader world) :
    Simulates cfg isMultiByte statement (Statement.fetchAhead cfg statement)
      (if reader.ahead.isNone then (reader.fetch cfg isMultiByte).map fun (row, after) =>
        ((), { after with ahead := row }) else some ((), reader)) world := by
  obtain ⟨wrap, id, cmd, held, valid, context, ahead, command, serves⟩ := follows.reads
  have quiet := follows.quiet
  have steps := stepsTo_fetchRow plays command serves quiet
  rw [follows.encoding] at steps
  split
  · rename_i isNone
    cases fetched : reader.fetch cfg isMultiByte with
    | none =>
      rw [fetched] at steps
      rw [Option.map_none, Simulates, wpOk, Statement.fetchAhead, wp_bind,
        wp_getModuleWrap_some held, wp_when, ahead]
      refine ⟨fun _ => ?_, fun some => absurd isNone some⟩
      rw [wp_bind, Statement.getContext, wp_bind, wp_getModuleWrap_some held, context, wp_pure,
        wp_bind]
      exact wp_mono_ok steps fun _ _ raised => raised
    | some result =>
      obtain ⟨row, after⟩ := result
      rw [fetched] at steps
      rw [Option.map_some, Simulates, Statement.fetchAhead, wp_bind, wp_getModuleWrap_some held,
        wp_when, ahead]
      refine ⟨fun _ => ?_, fun some => absurd isNone some⟩
      rw [wp_bind, Statement.getContext, wp_bind, wp_getModuleWrap_some held, context, wp_pure,
        wp_bind]
      refine wp_mono_ok steps ?_
      rintro _ middle ⟨rfl, cmd', env', read, serves'⟩
      have follows' := follows.read held valid context
        (ahead.trans (Reader.ahead_fetch fetched).symm)
        (Reader.shrinks_fetch fetched).1 read serves'
      exact ⟨rfl, follows'.buffer _⟩
  · rename_i isSome
    rw [Simulates, Statement.fetchAhead, wp_bind, wp_getModuleWrap_some held, wp_when, ahead]
    exact ⟨fun isNone => absurd isNone isSome, fun _ => ⟨rfl, follows⟩⟩

/-- What `next` says is whether a row was fetched ahead. -/
theorem simulates_hasRow (follows : Follows cfg isMultiByte statement reader world) :
    Simulates cfg isMultiByte statement
      (do pure (← getModuleWrap statement).m.execRes.isSome)
      (some (reader.ahead.isSome, reader)) world := by
  obtain ⟨wrap, id, cmd, held, valid, context, ahead, -⟩ := follows.reads
  rw [Simulates, wp_bind, wp_getModuleWrap_some held]
  exact ⟨congrArg Option.isSome ahead, follows⟩

/-- A method of a statement whose command announces the next result. -/
theorem simulates_readNextResult (plays : cfg.lib = CtLib.play)
    (follows : Follows cfg isMultiByte statement reader world) :
    Simulates cfg isMultiByte statement
      (do Statement.readNextResult cfg reconnect (← getModuleWrap statement).m.context)
      (some (reader.announce.kind, reader.announce)) world := by
  obtain ⟨wrap, id, cmd, held, valid, context, ahead, command, serves⟩ := follows.reads
  rw [Simulates, wp_bind, wp_getModuleWrap_some held, context]
  refine wp_mono_ok (stepsTo_readNextResult plays command serves follows.quiet
    follows.fits.script) ?_
  rintro _ after ⟨rfl, cmd', env', read, serves'⟩
  exact ⟨rfl, follows.read held valid context (ahead.trans (Reader.ahead_announce reader).symm)
    (Reader.shrinks_announce reader) read serves'⟩

/-- `Statement::next`. -/
theorem simulates_next (plays : cfg.lib = CtLib.play)
    (follows : Follows cfg isMultiByte statement reader world) :
    Simulates cfg isMultiByte statement (Statement.next cfg reconnect statement)
      (reader.next cfg isMultiByte) world := by
  have opened : Simulates cfg isMultiByte statement Statement.checkOpen
      (some ((), reader)) world := by
    rw [Simulates, Statement.checkOpen, wp_bind, wp_get, if_pos follows.isOpen]
    exact ⟨rfl, follows⟩
  rw [Statement.next]
  refine simulates_checkValid follows (simulates_bind opened fun middle follows => ?_)
  rw [bind_bind]
  refine simulates_bind (simulates_readNextResult plays follows) fun announced follows => ?_
  have quiet : Simulates cfg isMultiByte statement isException (some (false, reader.announce))
      announced := by
    rw [Simulates, wp_isException, follows.quiet]
    exact ⟨rfl, follows⟩
  refine simulates_bind quiet fun still follows => ?_
  rw [if_neg Bool.false_ne_true, Reader.next, when]
  have fetches := simulates_fetchAhead plays follows
  by_cases expected : Statement.expectRow reader.announce.kind = true
  · rw [if_pos expected]
    by_cases isNone : reader.announce.ahead.isNone = true
    · rw [if_pos isNone] at fetches
      rw [if_pos ⟨expected, isNone⟩]
      cases fetched : reader.announce.fetch cfg isMultiByte with
      | none =>
        rw [fetched] at fetches
        have stable := (SinkKept.stable cfg).toQuietStable
        exact wpOk_fails fetches fun _ =>
          keeps_bind (stable.keeps_getModuleWrap statement) fun _ => keeps_pure _
      | some result =>
        rw [fetched] at fetches
        exact simulates_bind fetches fun _ follows => simulates_hasRow follows
    · rw [if_neg isNone] at fetches
      rw [if_neg fun both => isNone both.2]
      exact simulates_bind fetches fun _ follows => simulates_hasRow follows
  · rw [if_neg expected, if_neg fun both => expected both.1]
    exact simulates_hasRow follows

/-- One pass of the loop of `fetch_rows`. -/
theorem simulates_fetchRowsOnce (plays : cfg.lib = CtLib.play) {r left : Int} {reslist : List Hash}
    (follows : Follows cfg isMultiByte statement reader world) (goesOn : ¬(r > 0 ∧ left < 0)) :
    Simulates cfg isMultiByte statement
      (Statement.fetchRowsOnce cfg reconnect statement r (left, reslist))
      ((Reader.next cfg isMultiByte { reader with ahead := none }).map fun (more, after) =>
        (if more then .inl (if r > 0 then left - 1 else left, reslist ++ reader.ahead.toList)
          else .inr (some (reslist ++ reader.ahead.toList)), after)) world := by
  have quiet : Simulates cfg isMultiByte statement isException (some (false, reader)) world := by
    rw [Simulates, wp_isException, follows.quiet]
    exact ⟨rfl, follows⟩
  rw [Statement.fetchRowsOnce, if_neg goesOn]
  refine simulates_bind quiet fun still follows => ?_
  rw [if_neg Bool.false_ne_true]
  refine simulates_bind (simulates_fetchRow follows) fun middle follows => ?_
  have moves : Simulates cfg isMultiByte statement (Statement.next cfg reconnect statement) _ _ :=
    simulates_next plays follows
  cases moved : Reader.next cfg isMultiByte { reader with ahead := none } with
  | none =>
    rw [moved] at moves
    refine wpOk_fails moves fun more => ?_
    cases more <;> exact keeps_pure _
  | some result =>
    obtain ⟨more, after⟩ := result
    rw [moved] at moves
    refine simulates_bind moves fun last follows => ?_
    cases more <;> exact ⟨rfl, follows⟩

/-- The loop of `fetch_rows`, with the number of passes that are left. -/
theorem simulates_iterate_fetchRowsOnce (plays : cfg.lib = CtLib.play) {r left : Int}
    {reslist : List Hash} {count bound : Nat}
    (follows : Follows cfg isMultiByte statement reader world)
    (limited : r > 0 → left = count - 1) (unlimited : ¬r > 0 → reader.rowsLeft < count)
    (enough : reader.rowsLeft + 1 < bound) :
    Simulates cfg isMultiByte statement
      (iterate .exhausted (Statement.fetchRowsOnce cfg (topReconnect cfg) statement r) bound
        (left, reslist))
      ((reader.passes cfg isMultiByte count).map fun (rows, after) =>
        (some (reslist ++ rows), after))
      world := by
  have stable := SinkKept.stable cfg
  have reconnects : ∀ cmd tryReconnect, Keeps SinkKept StopsAnyhow
      (topReconnect cfg cmd tryReconnect) :=
    SinkKept.keeps_closeAndReconnect cfg cfg.fuel
  induction count generalizing left reslist bound reader world with
  | zero =>
    obtain ⟨bound, rfl⟩ := Nat.exists_eq_add_of_lt enough
    have isLimited : r > 0 := by
      by_contra unbounded
      exact absurd (unlimited unbounded) (Nat.not_lt_zero _)
    have none : left < 0 := by
      rw [limited isLimited]
      decide
    rw [iterate_succ, Statement.fetchRowsOnce, if_pos ⟨isLimited, none⟩]
    exact ⟨congrArg some (List.append_nil reslist).symm, follows⟩
  | succ count inductionHypothesis =>
    obtain ⟨bound, rfl⟩ := Nat.exists_eq_add_of_lt enough
    have goesOn : ¬(r > 0 ∧ left < 0) := by
      rintro ⟨isLimited, none⟩
      rw [limited isLimited] at none
      omega
    have pass : Simulates cfg isMultiByte statement
        (Statement.fetchRowsOnce cfg (topReconnect cfg) statement r (left, reslist)) _ world :=
      simulates_fetchRowsOnce plays follows goesOn
    rw [iterate_succ, Reader.passes]
    cases moved : Reader.next cfg isMultiByte { reader with ahead := none } with
    | none =>
      rw [moved] at pass
      refine wpOk_fails pass fun result => ?_
      cases result with
      | inl again =>
        exact keeps_iterate (fun _ => trivial)
          (stable.methodStable.keeps_fetchRowsOnce reconnects statement r)
          _ _
      | inr delivered => exact keeps_pure _
    | some result =>
      obtain ⟨more, after⟩ := result
      rw [moved] at pass
      obtain ⟨shrinks, fewer⟩ := Reader.shrinks_next moved
      cases more with
      | false => exact simulates_bind pass fun last follows => ⟨rfl, follows⟩
      | true =>
        have less : after.rowsLeft < reader.rowsLeft := fewer rfl rfl
        refine simulates_bind pass fun last follows => ?_
        have rest : Simulates cfg isMultiByte statement (iterate .exhausted
            (Statement.fetchRowsOnce cfg (topReconnect cfg) statement r)
              (reader.rowsLeft + 1 + bound)
            (if r > 0 then left - 1 else left, reslist ++ reader.ahead.toList))
            ((after.passes cfg isMultiByte count).map fun (rows, final) =>
              (some (reslist ++ reader.ahead.toList ++ rows), final)) last := by
          refine inductionHypothesis follows (fun isLimited => ?_) (fun unbounded => ?_) (by omega)
          · rw [if_pos isLimited, limited isLimited]
            omega
          · have enough' := unlimited unbounded
            omega
        simp only [List.append_assoc] at rest
        simp only [Option.map_map, Function.comp_def, if_true]
        exact rest

/-- `Statement::fetch_rows`. -/
theorem simulates_fetchRows (plays : cfg.lib = CtLib.play)
    (follows : Follows cfg isMultiByte statement reader world) (rows : Int) :
    Simulates cfg isMultiByte statement
      (Statement.fetchRows cfg (topReconnect cfg) statement rows)
      ((reader.fetchRows cfg isMultiByte rows).map fun (delivered, after) =>
        (some delivered, after))
      world := by
  rw [Statement.fetchRows]
  refine simulates_checkValid follows ?_
  refine simulates_iterate_fetchRowsOnce plays follows (fun isLimited => ?_) (fun unbounded => ?_)
    follows.fits.rows
  · rw [if_pos isLimited]
    omega
  · rw [if_neg unbounded]
    exact Nat.lt_succ_self _

/-- The hash of columns that `read_cols` returns. -/
theorem withRows_eq_asColumns {columns : List Datafmt} {rows : List Hash}
    (keys : ∀ row ∈ rows, row.map Prod.fst = columnKeys none columns) :
    withRows none columns [] [] rows = asColumns rows := by
  cases rows with
  | nil => rfl
  | cons row rows =>
    rw [withRows, if_neg (List.cons_ne_nil _ _), asColumns, keys row List.mem_cons_self,
      List.nil_append]

/-- The loop of `read_cols` on the command of the statement. -/
theorem simulates_readCols (plays : cfg.lib = CtLib.play)
    (follows : Follows cfg isMultiByte statement reader world) {wrap : ModuleWrap} {id : CommandId}
    (held : world.statements statement = some wrap) (context : wrap.m.context = some id)
    (ph : Option (List Text)) (cnt : Int) :
    Simulates cfg isMultiByte statement (readCols cfg id ph cnt false)
      ((reader.fetchColumns cfg isMultiByte cnt).map fun (rows, after) =>
        (some (withRows ph (reader.bound cfg isMultiByte).columns [] [] rows), after)) world := by
  obtain ⟨_, _, cmd, held', valid, context', ahead, command, serves⟩ := follows.reads
  obtain rfl := Option.some_inj.mp (held.symm.trans held')
  obtain rfl := Option.some_inj.mp (context.symm.trans context')
  have rows : reader.current.rows.length ≤ reader.rowsLeft := Nat.le_add_right _ _
  have fits := follows.fits.rows
  have steps := stepsTo_readCols plays ph cnt command serves follows.quiet (by omega)
  rw [follows.encoding] at steps
  cases fetched : reader.fetchColumns cfg isMultiByte cnt with
  | none =>
    rw [fetched] at steps
    exact steps
  | some result =>
    obtain ⟨rows, after⟩ := result
    rw [fetched] at steps
    obtain ⟨same, shrinks⟩ := Reader.fetchMany_frame fetched
    refine wp_mono_ok steps ?_
    rintro _ last ⟨rfl, cmd', env', read, serves'⟩
    exact ⟨rfl, follows.read held valid context (ahead.trans same.symm) shrinks read serves'⟩

/-- The private data of the statement is there. -/
theorem simulates_getModuleWrap {α : Type} {next : ModuleWrap → Driver Playing α}
    {step : Option (α × Reader)} {wrap : ModuleWrap}
    (held : world.statements statement = some wrap)
    (simulates : Simulates cfg isMultiByte statement (next wrap) step world) :
    Simulates cfg isMultiByte statement (do next (← getModuleWrap statement)) step world := by
  cases step with
  | none => exact (wp_bind _ _).mpr ((wp_getModuleWrap_some held).mpr simulates)
  | some result => exact (wp_bind _ _).mpr ((wp_getModuleWrap_some held).mpr simulates)

/-- `Statement::fetch_columns`. -/
theorem simulates_fetchColumns (plays : cfg.lib = CtLib.play)
    (follows : Follows cfg isMultiByte statement reader world) (rows : Int) :
    Simulates cfg isMultiByte statement (Statement.fetchColumns cfg statement rows)
      ((reader.fetchColumns cfg isMultiByte rows).map fun (read, after) =>
        (some (asColumns read), after)) world := by
  obtain ⟨wrap, id, cmd, held, valid, context, -⟩ := follows.reads
  rw [Statement.fetchColumns]
  refine simulates_checkValid follows ?_
  rw [Statement.getContext, ← bind_bind]
  refine simulates_getModuleWrap held ?_
  rw [context]
  have reads := simulates_readCols plays follows held context none rows
  cases fetched : reader.fetchColumns cfg isMultiByte rows with
  | none =>
    rw [fetched] at reads
    exact reads
  | some result =>
    obtain ⟨read, after⟩ := result
    rw [fetched, Option.map_some] at reads
    dsimp only at reads
    rw [withRows_eq_asColumns (Reader.keys_fetchMany fetched)] at reads
    exact reads

/-- `Statement::get_output`. -/
theorem simulates_getOutput (plays : cfg.lib = CtLib.play)
    (follows : Follows cfg isMultiByte statement reader world) : ∃ placeholders,
    Simulates cfg isMultiByte statement (Statement.getOutput cfg statement)
      ((reader.fetchColumns cfg isMultiByte (-1)).map fun (rows, after) =>
        (some (withRows (some placeholders) (reader.bound cfg isMultiByte).columns [] [] rows),
          after))
      world := by
  obtain ⟨wrap, id, cmd, held, valid, context, -⟩ := follows.reads
  refine ⟨wrap.m.placeholders, ?_⟩
  rw [Statement.getOutput]
  refine simulates_checkValid follows ?_
  rw [Statement.getContext, ← bind_bind]
  refine simulates_getModuleWrap held ?_
  rw [context]
  refine simulates_getModuleWrap held ?_
  exact simulates_readCols plays follows held context _ (-1)

/-! ### Methods -/

/-- The wrapper of a method, on an empty sink. -/
theorem simulates_run {α : Type} {failed : α} {method : Driver Playing α}
    {step : Option (α × Reader)} (follows : Follows cfg isMultiByte statement reader world)
    (simulates : Simulates cfg isMultiByte statement method step world) :
    Simulates cfg isMultiByte statement (DBModuleWrap.run cfg statement failed method) step
      world := by
  obtain ⟨wrap, id, cmd, held, -⟩ := follows.reads
  have enters : ∀ {onOk : α → World Playing → Prop} {onThrow : Error → World Playing → Prop}
      {onHalt : Halt → World Playing → Prop}, wp method onOk onThrow onHalt world →
      wp (DBModuleWrap.runBody cfg statement failed method) onOk onThrow onHalt world := by
    intro onOk onThrow onHalt holds
    rw [DBModuleWrap.runBody, wp_bind, wp_isException, follows.quiet, if_neg (by simp), wp_bind,
      wp_moduleWrap_some held]
    exact holds
  cases step with
  | none =>
    rw [Simulates, wpOk, DBModuleWrap.run, wp_tryCatch]
    refine wp_mono (enters simulates) (fun _ _ raised => raised) (fun error after _ => ?_)
      fun _ _ _ => trivial
    rw [wp_bind, Error.raise, wp_bind, wp_isException, wp_when, wp_raiseException]
    refine ⟨fun _ => List.cons_ne_nil _ _, fun isRaised => ?_⟩
    rw [wp_pure]
    intro quiet
    rw [quiet] at isRaised
    exact isRaised rfl
  | some result =>
    rw [Simulates, DBModuleWrap.run, wp_tryCatch]
    exact wp_mono (enters simulates) (fun _ _ post => post) (fun _ _ absent => absent.elim)
      fun _ _ absent => absent

end Statements

/-! ### The state of a statement -/

/-- The state a statement is in, if it has a command. -/
def World.reader (world : World Playing) (statement : StatementId) : Option Reader :=
  (world.statements statement).bind fun wrap =>
    (wrap.m.context.bind world.commands).map fun cmd =>
      { ahead := wrap.m.execRes
        kind := cmd.lastRes
        bindings := if cmd.colinfo.needRefresh then none
          else some ⟨cmd.colinfo.datafmt, cmd.outBuffers.map OutputValueBuffer.cell,
            world.env.bound != 0⟩
        current := world.env.current
        script := world.env.script }

/-- A statement that was sent and has read nothing of a script. A row that was fetched ahead in an
earlier execution is still there. -/
def Playing.reader (env : Playing) (ahead : Option Hash) : Reader :=
  ⟨ahead, .resNone, none, env.current, env.script⟩

section Reached

variable {cfg : Config Playing} {isMultiByte : Bool} {statement : StatementId}
  {world executed : World Playing} {reader : Reader}

theorem Follows.reader_eq (follows : Follows cfg isMultiByte statement reader world) :
    world.reader statement = some reader := by
  obtain ⟨wrap, id, cmd, held, -, context, ahead, command, serves⟩ := follows.reads
  have bindings : (if cmd.colinfo.needRefresh then none
      else some (⟨cmd.colinfo.datafmt, cmd.outBuffers.map OutputValueBuffer.cell,
        world.env.bound != 0⟩ : Bindings)) = reader.bindings := by
    cases known : reader.bindings with
    | none => rw [if_pos (serves.refresh known)]
    | some bindings =>
      have bound := serves.bound bindings known
      have boundNow := serves.boundNow bindings known
      have positive := List.length_pos_iff.mpr bound.nonempty
      have current : (world.env.bound != 0) = bindings.current := by
        split at boundNow
        · rename_i current
          rw [current, bne_iff_ne]
          omega
        · rename_i expired
          rw [boundNow, Bool.eq_false_iff.mpr expired]
          rfl
      rw [bound.described.colinfo, bound.cells, current, if_neg]
      simpa [Columns.needRefresh] using bound.nonempty
  rw [World.reader, held, Option.bind_some, context, Option.bind_some, command, Option.map_some,
    bindings, ahead, serves.kind, serves.current, serves.script]

/-- An execution of a statement announces the first result of the script. -/
theorem follows_of_executed {wrap : ModuleWrap} (plays : cfg.lib = CtLib.play)
    (held : world.statements statement = some wrap) (valid : wrap.m.valid = true)
    (older : ∀ old ∈ wrap.m.context, old < world.nextCommand)
    (isOpen : world.isOpen = true) (quiet : world.xsink = [])
    (fits : (world.env.reader wrap.m.execRes).Fits cfg.fuel)
    (ran : DBModuleWrap.exec cfg statement world = (.ok 0, executed)) :
    Follows cfg world.connection.enc.isMultiByte statement
      (world.env.reader wrap.m.execRes).announce executed := by
  refine of_executed (Follows cfg world.connection.enc.isMultiByte statement
    (world.env.reader wrap.m.execRes).announce) plays held valid older isOpen quiet ?_ ran
  rintro wrap' id middle held' created ⟨⟨cmd, command, holds, waits, dirty⟩, -, env, connection, -,
    open', quiet'⟩
  have serves : Serves cmd middle.env (world.env.reader wrap.m.execRes) := by
    rw [env]
    exact ⟨holds, waits,
      fun _ => by rw [Columns.needRefresh, dirty, Bool.true_or], nofun, nofun, rfl, rfl⟩
  have stillValid : wrap'.m.valid = true := by
    rw [created]
    exact valid
  have follows : Follows cfg world.connection.enc.isMultiByte statement
      (world.env.reader wrap.m.execRes) middle :=
    ⟨open'.trans isOpen, quiet'.trans quiet,
      congrArg (fun (made : Connection) => made.enc.isMultiByte)
      connection, fits, wrap', id, cmd, held', stillValid, by rw [created], by rw [created]; rfl,
      command, serves⟩
  refine wp_mono_ok (stepsTo_readNextResult plays command serves follows.quiet fits.script) ?_
  rintro _ after ⟨-, cmd', env', read, serves'⟩
  refine follows.read held' stillValid (by rw [created]) ?_ (Reader.shrinks_announce _) read serves'
  rw [created, Reader.ahead_announce]
  rfl

end Reached

end Sybase
