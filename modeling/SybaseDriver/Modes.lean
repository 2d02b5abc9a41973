/-
This file proves what reading a result of a script gives in each of the modes: its rows as a list,
its rows in columns, or a single row. In the last mode, the second row of a result raises an
exception, and the rows after it are not read.
-/

import SybaseDriver.Script

namespace Sybase

open Program Command

variable {cfg : Config Playing} {id : CommandId} {cmd : Command}

/-! ### Reading a result -/

/-- Reading a result in a mode (as a list or in columns, and whether only one row is expected) gives
a value, and reads the result to its end. -/
def Yields (cfg : Config Playing) (isMultiByte : Bool) (list cols singleRow : Bool)
    (result : Fetchable) (value : QoreValue) : Prop :=
  ∀ ⦃id : CommandId⦄ ⦃cmd : Command⦄ ⦃env : Playing⦄ ⦃base world : World Playing⦄,
    cmd.mCmd.isSome → ReadTo id cmd env base world → base.xsink = [] →
    base.connection.enc.isMultiByte = isMultiByte → env.current = result →
    cmd.colinfo.dirty = true ∨ IsBound cfg isMultiByte cmd env →
    wp (readRowsOrCols cfg id none list cols singleRow)
      (fun read after => read = value ∧ Finished id cmd env base after) noThrow noHalt world

/-- A command whose reading was interrupted by an exception. -/
def Interrupted (id : CommandId) (cmd : Command) (raised : List QoreException)
    (base after : World Playing) : Prop :=
  ∃ cmd' env fetched, ReadTo id cmd' env base fetched ∧ cmd'.mCmd = cmd.mCmd ∧
    after = { fetched with xsink := raised }

/-- The hash of the columns of a result. -/
def Fetchable.columnHash (cfg : Config Playing) (isMultiByte cols : Bool) (result : Fetchable) :
    Hash :=
  if result.rows = [] ∧ cols = false then []
  else columnsFrom (result.rowValues cfg isMultiByte)
    (columnKeys none (result.described cfg isMultiByte)) 0

section Yielding

variable {isMultiByte : Bool} {result : Fetchable} (plays : cfg.lib = CtLib.play)
  (wellFormed : result.WellFormed cfg isMultiByte) (enough : result.rows.length < cfg.fuel)
include plays wellFormed enough

omit enough in
/-- A result whose columns are described before it is read. -/
theorem wp_readRowsOrCols_described {list cols singleRow : Bool} {env : Playing}
    {base world : World Playing} {onRead : QoreValue → World Playing → Prop}
    (holds : cmd.mCmd.isSome)
    (read : ReadTo id cmd env base world) (quiet : base.xsink = [])
    (enc : base.connection.enc.isMultiByte = isMultiByte) (current : env.current = result)
    (dirty : cmd.colinfo.dirty = true ∨ IsBound cfg isMultiByte cmd env)
    (reads : ∀ (cmd' : Command) (env' : Playing) (middle : World Playing),
      ReadTo id cmd' env' base middle → env'.current = result → env'.script = env.script →
      IsBound cfg isMultiByte cmd' env' → cmd'.mCmd = cmd.mCmd →
      cmd'.query = cmd.query → wp (if list then readRows cfg id none singleRow
          else do
            let h ← readCols cfg id none (-1) cols
            pure (hashValue h)) onRead noThrow noHalt middle) :
    wp (readRowsOrCols cfg id none list cols singleRow) onRead noThrow noHalt world := by
  subst current enc
  have columns : env.current.described cfg base.connection.enc.isMultiByte ≠ [] :=
    mt List.map_eq_nil_iff.mp wellFormed.columns
  rw [readRowsOrCols, wp_bind]
  rcases dirty with dirty | bound
  · rw [ensureColinfo, wp_bind, wp_getCommand_some read.commands,
      if_pos (by rw [Columns.needRefresh, dirty, Bool.true_or]), ← wp_bind]
    exact wp_retrColinfo_then_play plays holds read quiet wellFormed reads
  · refine wp_mono_ok (wp_ensureColinfo_described read.commands bound.described columns) ?_
    rintro _ _ ⟨rfl, rfl⟩
    rw [if_neg (by simp)]
    exact reads cmd env _ read rfl rfl bound rfl rfl

/-- The rows of a result, read as a list. -/
theorem yields_rows (cols : Bool) :
    Yields cfg isMultiByte true cols false result (result.value cfg isMultiByte none) := by
  intro id cmd env base world holds read quiet enc current dirty
  refine wp_readRowsOrCols_described plays wellFormed holds read quiet enc current dirty
    fun cmd' env' middle read current' script bound onHandle query => ?_
  subst current' enc
  rw [if_pos rfl]
  refine wp_mono_ok (wp_readRows_play plays (onHandle ▸ holds) read quiet wellFormed none bound
    enough) ?_
  rintro _ after ⟨rfl, finished⟩
  exact ⟨rfl, finished.of_same script onHandle query⟩

/-- The columns of a result that is described. -/
theorem wp_readCols_play {env : Playing} {base world : World Playing} (cols : Bool)
    (holds : cmd.mCmd.isSome)
    (read : ReadTo id cmd env base world) (quiet : base.xsink = []) (current : env.current = result)
    (bound : IsBound cfg isMultiByte cmd env) :
    wp (readCols cfg id none (-1) cols)
      (fun h after => h = some (result.columnHash cfg isMultiByte cols) ∧
        Finished id cmd env base after)
      noThrow noHalt world := by
  subst current
  have columns : env.current.described cfg isMultiByte ≠ [] :=
    mt List.map_eq_nil_iff.mp wellFormed.columns
  have noValues : env.current.rowValues cfg isMultiByte = [] ↔ env.current.rows = [] :=
    List.map_eq_nil_iff
  have loop : ∀ h, ColumnsOf none (env.current.described cfg isMultiByte) [] h →
      wp (readColsLoop cfg id none (-1) h)
        (fun read after => read = some (if env.current.rows = [] then h
            else columnsFrom (env.current.rowValues cfg isMultiByte)
              (columnKeys none (env.current.described cfg isMultiByte)) 0) ∧
          Finished id cmd env base after) noThrow noHalt world := by
    intro h columnsOf
    refine wp_mono_ok (wp_iterate_readColsOnce none (bound.fetches plays holds wellFormed)
      (by decide)
      columnsOf enough read.env rfl read.commands bound.described (read.xsink.trans quiet)
      wellFormed.decodesTo) ?_
    rintro _ after ⟨rfl, buffers, -, readRest⟩
    exact ⟨by simp only [noValues, List.nil_append], _, _, read.trans readRest, rfl, rfl, rfl, rfl,
      rfl⟩
  rw [readCols, wp_bind]
  refine wp_mono_ok (wp_ensureColinfo_described read.commands bound.described columns) ?_
  rintro _ _ ⟨rfl, rfl⟩
  rw [if_neg (by simp), wp_bind, wp_isException, read.xsink, quiet, if_neg (by simp), wp_bind]
  cases cols with
  | false =>
    rw [setupColumnsIf, if_neg Bool.false_ne_true, wp_pure]
    refine wp_mono_ok (loop [] (.inr ⟨rfl, rfl⟩)) ?_
    rintro _ after ⟨rfl, finished⟩
    exact ⟨by simp only [Fetchable.columnHash, and_true], finished⟩
  | true =>
    have setUp := wp_setupIfEmpty (h := []) none read.commands bound.described (.inr ⟨rfl, rfl⟩)
    refine wp_mono_ok setUp ?_
    rintro _ _ ⟨rfl, rfl⟩
    refine wp_mono_ok (loop _ (.inl rfl)) ?_
    rintro _ after ⟨rfl, finished⟩
    refine ⟨?_, finished⟩
    simp only [Fetchable.columnHash, Bool.true_eq_false, and_false, if_false]
    split
    · rename_i none
      rw [noValues.mpr none]
    · rfl

/-- The rows of a result, read in columns. -/
theorem yields_columns (cols singleRow : Bool) : Yields cfg isMultiByte false cols singleRow result
    (.hash (result.columnHash cfg isMultiByte cols)) := by
  intro id cmd env base world holds read quiet enc current dirty
  refine wp_readRowsOrCols_described plays wellFormed holds read quiet enc current dirty
    fun cmd' env' middle read current script bound onHandle query => ?_
  rw [if_neg (by simp), wp_bind]
  refine wp_mono_ok (wp_readCols_play plays wellFormed enough cols (onHandle ▸ holds)
    read quiet current bound) ?_
  rintro _ after ⟨rfl, finished⟩
  exact ⟨rfl, finished.of_same script onHandle query⟩

/-- Every result is read in list and in column mode. -/
theorem exists_yields (list : Bool) :
    ∃ value, Yields cfg isMultiByte list false false result value := by
  cases list with
  | false => exact ⟨_, yields_columns plays wellFormed enough false false⟩
  | true => exact ⟨_, yields_rows plays wellFormed enough false⟩

section SingleRow

variable {env : Playing} {base world : World Playing} (holds : cmd.mCmd.isSome)
  (read : ReadTo id cmd env base world) (quiet : base.xsink = []) (current : env.current = result)
  (bound : IsBound cfg isMultiByte cmd env)
include holds read quiet current bound

omit enough quiet in
/-- `read_rows` on a described result. -/
theorem wp_readRows_described {singleRow : Bool} {onRead : QoreValue → World Playing → Prop}
    (reads : Fetches cfg.lib cmd.mCmd world.env result.rows
        { env with current := { env.current with rows := [] } } →
      DecodesTo cfg (result.described cfg isMultiByte) result.rows
        (result.rowValues cfg isMultiByte) →
      wp (readRowsLoop cfg id none singleRow) onRead noThrow noHalt world) :
    wp (readRows cfg id none singleRow) onRead noThrow noHalt world := by
  subst current
  have columns : env.current.described cfg isMultiByte ≠ [] :=
    mt List.map_eq_nil_iff.mp wellFormed.columns
  rw [readRows, wp_bind]
  refine wp_mono_ok (wp_ensureColinfo_described read.commands bound.described columns) ?_
  rintro _ _ ⟨rfl, rfl⟩
  rw [if_neg (by simp)]
  refine reads ?_ wellFormed.decodesTo
  rw [read.env]
  exact bound.fetches plays holds wellFormed

theorem wp_readRows_single (few : result.rows.length ≤ 1) :
    wp (readRows cfg id none true)
      (fun value after => value = result.value cfg isMultiByte none ∧
        Finished id cmd env base after)
      noThrow noHalt world := by
  refine wp_readRows_described plays wellFormed holds read current bound
    fun fetched decoded => ?_
  refine wp_mono_ok (wp_iterate_readRowsOnce_single none fetched few enough read.commands
    (current ▸ bound.described) (read.xsink.trans quiet) decoded) ?_
  rintro _ after ⟨rfl, buffers, readRest⟩
  exact ⟨rfl, _, _, read.trans readRest, rfl, rfl, rfl, rfl, rfl⟩

/-- The second row of a result raises an exception, and ends the reading. -/
theorem wp_readRows_second (several : 1 < result.rows.length) :
    wp (readRows cfg id none true)
      (fun value after => value = .nothing ∧ Interrupted id cmd [secondRow] base after)
      noThrow noHalt world := by
  refine wp_readRows_described plays wellFormed holds read current bound
    fun fetched decoded => ?_
  refine wp_mono_ok (wp_iterate_readRowsOnce_second none fetched several
    (Nat.lt_trans several enough)
    read.commands (current ▸ bound.described) (read.xsink.trans quiet) decoded) ?_
  rintro _ after ⟨rfl, buffers, env', fetched, readRest, rfl⟩
  exact ⟨rfl, _, _, _, read.trans readRest, rfl, rfl⟩

end SingleRow

/-- The row of a result that has at most one. -/
theorem yields_row (cols : Bool) (few : result.rows.length ≤ 1) :
    Yields cfg isMultiByte true cols true result (result.value cfg isMultiByte none) := by
  intro id cmd env base world holds read quiet enc current dirty
  refine wp_readRowsOrCols_described plays wellFormed holds read quiet enc current dirty
    fun cmd' env' middle read current script bound onHandle query => ?_
  rw [if_pos rfl]
  refine wp_mono_ok (wp_readRows_single plays wellFormed enough (onHandle ▸ holds)
    read quiet current bound few) ?_
  rintro _ after ⟨rfl, finished⟩
  exact ⟨rfl, finished.of_same script onHandle query⟩

/-- A result of several rows where one is expected. -/
theorem wp_readRowsOrCols_second (cols : Bool) (several : 1 < result.rows.length) {env : Playing}
    {base world : World Playing} (holds : cmd.mCmd.isSome) (read : ReadTo id cmd env base world)
    (quiet : base.xsink = []) (enc : base.connection.enc.isMultiByte = isMultiByte)
    (current : env.current = result)
    (dirty : cmd.colinfo.dirty = true ∨ IsBound cfg isMultiByte cmd env) :
    wp (readRowsOrCols cfg id none true cols true)
      (fun value after => value = .nothing ∧ Interrupted id cmd [secondRow] base after)
      noThrow noHalt world := by
  refine wp_readRowsOrCols_described plays wellFormed holds read quiet enc current dirty
    fun cmd' env' middle read current script bound onHandle query => ?_
  rw [if_pos rfl]
  refine wp_mono_ok (wp_readRows_second plays wellFormed enough (onHandle ▸ holds)
    read quiet current bound several) ?_
  rintro _ after ⟨rfl, cmd'', env'', fetched, readTo, onHandle', raised⟩
  exact ⟨rfl, cmd'', env'', fetched, readTo, onHandle'.trans onHandle, raised⟩

end Yielding

end Sybase
