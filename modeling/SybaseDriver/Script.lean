/-
This file defines a ct-lib that plays a finite script of results, and proves how the
driver reads it: `ct_results` announces the script in order, the columns of a result
are described as the script has them, and its rows are fetched one after the other.
-/

import SybaseDriver.Columns
import SybaseDriver.Connection

namespace Sybase

open Program Command

/-! ### Scripts -/

/-- A result with rows: its columns as the server describes them, and its rows. -/
structure Fetchable where
  columns : List Datafmt
  rows : List (List Cell)

/-- What `ct_results` announces. -/
inductive Announcement where
  | succeed
  | row (result : Fetchable)
  | param (result : Fetchable)
  | status (result : Fetchable)
  | done (count : Int)

namespace Announcement

/-- The result type of an announcement. -/
def type : Announcement → ResultType
  | succeed => .cmdSucceed
  | row _ => .row
  | param _ => .param
  | status _ => .status
  | done _ => .cmdDone

/-- The result the driver reads an announcement as. -/
def res : Announcement → ResType
  | succeed => .resRetry
  | row _ => .resRow
  | param _ => .resParam
  | status _ => .resStatus
  | done _ => .resDone

/-- A command that has read an announcement. -/
def seen (cmd : Command) : Announcement → Command
  | done count =>
    { cmd with rowcount := count, colinfo := { cmd.colinfo with dirty := true } }
  | _ => cmd

/-- Whether an announcement has a result or a row count. -/
def isOutput : Announcement → Bool
  | succeed => false
  | _ => true

end Announcement

/-- ct-lib while it plays a script: the result announced last with the rows that are left, the row
count of the last command, what is still to be announced, and how many columns of that result are
bound to buffers. -/
structure Playing where
  current : Fetchable
  count : Int
  script : List Announcement
  bound : Nat

namespace Playing

/-- The state after an announcement. The columns of a result are not bound yet. -/
def announce (playing : Playing) (announcement : Announcement) (rest : List Announcement) :
    Playing :=
  match announcement with
  | .succeed => { playing with script := rest }
  | .row result | .param result | .status result =>
    { playing with current := result, script := rest, bound := 0 }
  | .done count => { playing with count := count, script := rest }

/-- The state after the columns up to one were bound. -/
def bindTo (playing : Playing) (column : Nat) : Playing :=
  { playing with bound := max playing.bound column }

/-- The cells of a row that go into buffers: those of the columns that are bound. -/
def stored (playing : Playing) (cells : List Cell) : List Cell := cells.take playing.bound

end Playing

/-- A ct-lib that plays scripts. No call fails. -/
def CtLib.play : CtLib Playing where
  answer call playing := match call with
    | .results _ => match playing.script with
      | [] => ({ code := .endResults }, playing)
      | announcement :: rest =>
        ({ resultType := announcement.type }, playing.announce announcement rest)
    | .rowCount _ => ({ number := playing.count }, playing)
    | .numData _ => ({ number := playing.current.columns.length }, playing)
    | .describe _ column =>
      ({ datafmt := playing.current.columns.getD (column - 1) ({} : Reply).datafmt }, playing)
    | .bind _ column _ => ({}, playing.bindTo column)
    | .fetch _ => match playing.current.rows with
      | [] => ({ code := .endData }, playing)
      | cells :: rows =>
        ({ number := 1, cells := playing.stored cells },
          { playing with current := { playing.current with rows := rows } })
    | _ => ({}, playing)
  activeTransaction _ := false

namespace Fetchable

/-- The columns of a result as the driver describes them. -/
def described (cfg : Config Playing) (isMultiByte : Bool) (result : Fetchable) : List Datafmt :=
  result.columns.map (adjust cfg isMultiByte)

/-- The values of the rows of a result. -/
def rowValues (cfg : Config Playing) (isMultiByte : Bool) (result : Fetchable) :
    List (List QoreValue) :=
  result.rows.map fun cells => (decodeCells cfg (result.described cfg isMultiByte) cells).getD []

/-- The hashes of the rows of a result. -/
def rowHashes (cfg : Config Playing) (isMultiByte : Bool) (ph : Option (List Text))
    (result : Fetchable) : List Hash :=
  (result.rowValues cfg isMultiByte).map fun row =>
    (columnKeys ph (result.described cfg isMultiByte)).zip row

/-- The value of a result: NOTHING for no row, the hash of the row for one, else the list of the
hashes. -/
def value (cfg : Config Playing) (isMultiByte : Bool) (ph : Option (List Text))
    (result : Fetchable) : QoreValue := rowsValue (result.rowHashes cfg isMultiByte ph)

/-- A result has columns, and its rows have values of known types in them. -/
structure WellFormed (cfg : Config Playing) (isMultiByte : Bool) (result : Fetchable) : Prop where
  columns : result.columns ≠ []
  rows : ∀ cells ∈ result.rows,
    (decodeCells cfg (result.described cfg isMultiByte) cells).isSome

theorem WellFormed.decodesTo {cfg : Config Playing} {isMultiByte : Bool} {result : Fetchable}
    (wellFormed : result.WellFormed cfg isMultiByte) :
    DecodesTo cfg (result.described cfg isMultiByte) result.rows
      (result.rowValues cfg isMultiByte) := by
  refine List.forall₂_map_right_iff.mpr (List.forall₂_same.mpr fun cells member => ?_)
  obtain ⟨row, decoded⟩ := Option.isSome_iff_exists.mp (wellFormed.rows cells member)
  rw [decoded, Option.getD_some]

theorem WellFormed.length_row {cfg : Config Playing} {isMultiByte : Bool} {result : Fetchable}
    (wellFormed : result.WellFormed cfg isMultiByte) {cells : List Cell}
    (member : cells ∈ result.rows) : cells.length = result.columns.length := by
  obtain ⟨row, decoded⟩ := Option.isSome_iff_exists.mp (wellFormed.rows cells member)
  rw [(decodeCells_length decoded).1, described, List.length_map]

end Fetchable

namespace Command

variable {cfg : Config Playing} {id : CommandId} {cmd : Command} {env : Playing}
  {base world after : World Playing}

/-! ### The state after reading -/

theorem readTo_refl (held : world.commands id = some cmd) : ReadTo id cmd world.env world world :=
  (Logged.refl world).readTo held

theorem ReadTo.connection (read : ReadTo id cmd env base world) :
    world.connection = base.connection := by
  obtain ⟨_, _, _, rfl⟩ := read
  rfl

/-- A change of the command after reading. -/
theorem ReadTo.modify (read : ReadTo id cmd env base world) (change : Command → Command) :
    wp (modifyCommand id change) (fun _ after => ReadTo id (change cmd) env base after)
      noThrow noHalt world := by
  obtain ⟨log, clientMsgs, serverMsgs, rfl⟩ := read
  exact ⟨log, clientMsgs, serverMsgs, by simp⟩

/-- A call about a handle is answered from the script. -/
theorem reply_play (plays : cfg.lib = CtLib.play) {call : CtCall} (holds : cmd.mCmd.isSome)
    (about : call.command? = some cmd.mCmd) (env : Playing) :
    cfg.lib.reply call env = CtLib.play.answer call env := by
  obtain ⟨handle, onHandle⟩ := Option.isSome_iff_exists.mp holds
  rw [plays, CtLib.reply, about, onHandle, if_neg (by simp)]

/-- Canceling and dropping a command leave the script as it is. -/
theorem reply_play_env (plays : cfg.lib = CtLib.play) {handle : Option Handle} {call : CtCall}
    (releases : call = .cancel handle ∨ call = .cmdDrop handle) (env : Playing) :
    (cfg.lib.reply call env).2 = env := by
  rw [plays, CtLib.reply]
  split
  · rfl
  · rcases releases with rfl | rfl
    · rfl
    · rfl

/-- A call about the command after reading. -/
theorem ReadTo.call (read : ReadTo id cmd env base world) (plays : cfg.lib = CtLib.play)
    {call : CtCall} (holds : cmd.mCmd.isSome) (about : call.command? = some cmd.mCmd) :
    wp (ctCall cfg call)
      (fun reply after => reply = (CtLib.play.answer call env).1 ∧
        ReadTo id cmd (CtLib.play.answer call env).2 base after) noThrow noHalt world := by
  have answers := reply_play plays holds about env
  obtain ⟨log, clientMsgs, serverMsgs, rfl⟩ := read
  rw [wp_ctCall]
  exact ⟨congrArg Prod.fst answers, _, _, _, by rw [← answers]; rfl⟩

/-! ### Describing columns -/

section Describing

variable (plays : cfg.lib = CtLib.play) (holds : cmd.mCmd.isSome)
  (read : ReadTo id cmd env base world)
include plays holds read

theorem wp_getColumnCount_play (columns : env.current.columns ≠ []) :
    wp (getColumnCount cfg id)
      (fun count after => count = env.current.columns.length ∧ ReadTo id cmd env base after)
      noThrow noHalt world := by
  have positive := List.length_pos_iff.mpr columns
  rw [getColumnCount, wp_bind, wp_getCommand_some read.commands, wp_bind]
  refine wp_mono_ok (read.call plays holds rfl) ?_
  rintro _ after ⟨rfl, read⟩
  rw [wp_bind, wp_when]
  refine ⟨fun failed => absurd rfl failed, fun _ => ?_⟩
  rw [wp_bind, wp_when]
  refine ⟨fun none => absurd none ?_, fun _ => ⟨rfl, read⟩⟩
  show ¬(env.current.columns.length : Int) ≤ 0
  omega

theorem wp_getRowDescription_play (remaining index : Nat)
    (length : index + remaining = env.current.columns.length) :
    wp (getRowDescription cfg id remaining index)
      (fun _ after => ReadTo id { cmd with colinfo := { cmd.colinfo with
        datafmt := cmd.colinfo.datafmt ++ (env.current.columns.drop index).map
          (adjust cfg base.connection.enc.isMultiByte) } } env base after)
      noThrow noHalt world := by
  induction remaining generalizing index world cmd with
  | zero =>
    rw [List.drop_eq_nil_of_le (by omega), List.map_nil, List.append_nil]
    exact read
  | succ remaining inductionHypothesis =>
    have below : index < env.current.columns.length := by omega
    rw [getRowDescription, wp_bind, wp_getCommand_some read.commands, wp_bind]
    refine wp_mono_ok (read.call plays holds rfl) ?_
    rintro _ described ⟨rfl, read⟩
    rw [if_neg (by simp [CtLib.play]), wp_bind, wp_get, wp_bind, read.connection]
    refine wp_mono_ok (read.modify _) fun _ stored read => ?_
    have column : (CtLib.play.answer (.describe cmd.mCmd (index + 1)) env).1.datafmt =
        env.current.columns[index] := by
      simp [CtLib.play, List.getD_eq_getElem?_getD, below]
    rw [List.drop_eq_getElem_cons below, List.map_cons, List.append_cons, ← column]
    exact inductionHypothesis (by exact holds) read (index + 1) (by omega)

theorem wp_bindColumns_play (columns : List Datafmt) (index : Nat) (inOrder : index ≤ env.bound) :
    wp (bindColumns cfg id columns index)
      (fun _ after => ReadTo id { cmd with
        outBuffers := cmd.outBuffers ++ columns.map fun datafmt => newBuffer datafmt.maxlength }
          (env.bindTo (index + columns.length)) base after) noThrow noHalt world := by
  induction columns generalizing index world cmd env with
  | nil =>
    have same : env.bindTo (index + 0) = env := by
      rw [Playing.bindTo, Nat.add_zero, Nat.max_eq_left inOrder]
    rw [List.map_nil, List.append_nil, List.length_nil, same]
    exact read
  | cons datafmt columns inductionHypothesis =>
    rw [bindColumns, wp_bind]
    refine wp_mono_ok (read.modify _) fun _ stored read => ?_
    rw [wp_bind, wp_getCommand_some read.commands, wp_bind]
    refine wp_mono_ok (read.call plays holds rfl) ?_
    rintro _ bound ⟨rfl, read⟩
    have same : (env.bindTo (index + 1)).bindTo (index + 1 + columns.length) =
        env.bindTo (index + (datafmt :: columns).length) := by
      simp only [Playing.bindTo, List.length_cons]
      congr 1
      omega
    rw [if_neg (by simp [CtLib.play]), List.map_cons, List.append_cons, ← same]
    exact inductionHypothesis (by exact holds) read (index + 1) (Nat.le_max_right _ _)

/-- The columns of a result are described and bound, whatever was described before. -/
theorem wp_retrColinfo_play (quiet : base.xsink = []) (columns : env.current.columns ≠ []) :
    wp (retrColinfo cfg id)
      (fun failed after => failed = 0 ∧ ∃ cmd',
        ReadTo id cmd' (env.bindTo env.current.columns.length) base after ∧
        Described cmd' (env.current.described cfg base.connection.enc.isMultiByte) ∧
        cmd'.mCmd = cmd.mCmd ∧ cmd'.query = cmd.query ∧ cmd'.lastRes = cmd.lastRes ∧
        cmd'.outBuffers = (env.current.described cfg base.connection.enc.isMultiByte).map
          fun datafmt => newBuffer datafmt.maxlength) noThrow noHalt world := by
  rw [retrColinfo, wp_bind]
  refine wp_mono_ok (wp_getColumnCount_play plays holds read columns) ?_
  rintro _ counted ⟨rfl, read⟩
  rw [wp_bind, wp_isException, read.xsink, quiet, if_neg (by simp), wp_bind]
  refine wp_mono_ok (read.modify _) fun _ cleared read => ?_
  rw [wp_bind]
  refine wp_mono_ok (wp_getRowDescription_play plays (by exact holds) read _ 0
    (by rw [Nat.zero_add])) fun _ _ read => ?_
  rw [wp_bind, wp_getCommand_some read.commands, wp_bind, setupOutputBuffers, wp_bind]
  refine wp_mono_ok (read.modify _) fun _ emptied read => ?_
  refine wp_mono_ok (wp_bindColumns_play plays (by exact holds) read _ 0 (Nat.zero_le _))
    fun _ _ read => ?_
  rw [wp_bind]
  refine wp_mono_ok (read.modify _) fun _ _ read => ?_
  rw [Nat.zero_add, List.nil_append, List.length_map] at read
  exact ⟨rfl, _, read, ⟨rfl, List.length_map _⟩, rfl, rfl, rfl, rfl⟩

end Describing

/-! ### Reading rows -/

/-- The rows of a result are fetched one after the other. -/
theorem fetches_play (plays : cfg.lib = CtLib.play) (holds : cmd.mCmd.isSome)
    (columns : List Datafmt) (rows : List (List Cell)) (count : Int) (script : List Announcement)
    {bound : Nat} (bounds : ∀ cells ∈ rows, cells.length ≤ bound) :
    Fetches cfg.lib cmd.mCmd ⟨⟨columns, rows⟩, count, script, bound⟩ rows
      ⟨⟨columns, []⟩, count, script, bound⟩ := by
  have answers := @reply_play cfg cmd plays (.fetch cmd.mCmd) holds rfl
  induction rows with
  | nil =>
    have last : Fetches cfg.lib cmd.mCmd ⟨⟨columns, []⟩, count, script, bound⟩ [] _ :=
      .endData (by rw [answers]; rfl)
    rwa [answers] at last
  | cons cells rows inductionHypothesis =>
    have all : Playing.stored ⟨⟨columns, cells :: rows⟩, count, script, bound⟩ cells = cells :=
      List.take_of_length_le (bounds cells List.mem_cons_self)
    have first : Fetches cfg.lib cmd.mCmd ⟨⟨columns, cells :: rows⟩, count, script, bound⟩ _ _ :=
      .row (by rw [answers]; rfl) (by rw [answers]; rfl) (by
        rw [answers]
        exact inductionHypothesis fun other member => bounds other (.tail _ member))
    rw [answers] at first
    rwa [show (CtLib.play.answer (.fetch cmd.mCmd)
      ⟨⟨columns, cells :: rows⟩, count, script, bound⟩).1.cells = cells from all] at first

/-- The columns of the current result are described, and all of them are bound. -/
structure IsBound (cfg : Config Playing) (isMultiByte : Bool) (cmd : Command) (env : Playing) :
    Prop where
  described : Described cmd (env.current.described cfg isMultiByte)
  bound : env.current.columns.length ≤ env.bound

theorem IsBound.fetches {isMultiByte : Bool} (bound : IsBound cfg isMultiByte cmd env)
    (plays : cfg.lib = CtLib.play) (holds : cmd.mCmd.isSome)
    (wellFormed : env.current.WellFormed cfg isMultiByte) :
    Fetches cfg.lib cmd.mCmd env env.current.rows
      { env with current := { env.current with rows := [] } } :=
  fetches_play plays holds env.current.columns env.current.rows env.count env.script
    fun _ member => (wellFormed.length_row member).trans_le bound.bound

/-- A command after all rows of the current result were read. -/
def Finished (id : CommandId) (cmd : Command) (env : Playing) (base after : World Playing) : Prop :=
  ∃ cmd' env', ReadTo id cmd' env' base after ∧ env'.script = env.script ∧
    env'.current.rows = [] ∧ cmd'.mCmd = cmd.mCmd ∧ cmd'.query = cmd.query ∧ cmd'.lastRes = .resNone

theorem Finished.xsink (finished : Finished id cmd env base after) : after.xsink = base.xsink := by
  obtain ⟨_, _, read, -⟩ := finished
  exact read.xsink

/-- It does not matter which command and script a result was read of, where these are the same. -/
theorem Finished.of_same {cmd' : Command} {env' : Playing}
    (finished : Finished id cmd' env' base after)
    (script : env'.script = env.script) (onHandle : cmd'.mCmd = cmd.mCmd)
    (query : cmd'.query = cmd.query) : Finished id cmd env base after := by
  obtain ⟨cmd'', env'', read, script', rows, onHandle', query', lastRes⟩ := finished
  exact ⟨cmd'', env'', read, script'.trans script, rows, onHandle'.trans onHandle,
    query'.trans query, lastRes⟩

/-- Columns that are described are not described again. -/
theorem wp_ensureColinfo_described {cfg : Config Playing} (held : world.commands id = some cmd)
    {columns : List Datafmt} (described : Described cmd columns) (nonempty : columns ≠ []) :
    wp (ensureColinfo cfg id) (fun failed after => failed = 0 ∧ after = world) noThrow noHalt
      world := by
  rw [ensureColinfo, wp_bind, wp_getCommand_some held, described.colinfo, if_neg]
  · exact ⟨rfl, rfl⟩
  · simp [Columns.needRefresh, nonempty]

section Rows

variable (plays : cfg.lib = CtLib.play) (holds : cmd.mCmd.isSome)
  (read : ReadTo id cmd env base world) (quiet : base.xsink = [])
  (wellFormed : env.current.WellFormed cfg base.connection.enc.isMultiByte)

include plays holds read quiet wellFormed

theorem wp_readRows_play (ph : Option (List Text))
    (bound : IsBound cfg base.connection.enc.isMultiByte cmd env)
    (enough : env.current.rows.length < cfg.fuel) :
    wp (readRows cfg id ph false)
      (fun value after => value = env.current.value cfg base.connection.enc.isMultiByte ph ∧
        Finished id cmd env base after) noThrow noHalt world := by
  have columns : env.current.described cfg base.connection.enc.isMultiByte ≠ [] :=
    mt List.map_eq_nil_iff.mp wellFormed.columns
  rw [readRows, wp_bind]
  refine wp_mono_ok (wp_ensureColinfo_described read.commands bound.described columns) ?_
  rintro _ _ ⟨rfl, rfl⟩
  rw [if_neg (by simp)]
  refine wp_mono_ok (wp_iterate_readRowsOnce ph (bound.fetches plays holds wellFormed) [] enough
    read.env rfl read.commands bound.described (read.xsink.trans quiet) wellFormed.decodesTo) ?_
  rintro _ after ⟨rfl, buffers, -, readRest⟩
  exact ⟨rfl, _, _, read.trans readRest, rfl, rfl, rfl, rfl, rfl⟩

/-- A result that is described anew, and then read. -/
theorem wp_retrColinfo_then_play {α : Type} {onOk : α → World Playing → Prop} {failed : α}
    {next : Driver Playing α}
    (rest : ∀ cmd' env' middle, ReadTo id cmd' env' base middle → env'.current = env.current →
      env'.script = env.script → IsBound cfg base.connection.enc.isMultiByte cmd' env' →
      cmd'.mCmd = cmd.mCmd → cmd'.query = cmd.query → wp next onOk noThrow noHalt middle) :
    wp (do if (← retrColinfo cfg id) ≠ 0 then pure failed else next) onOk noThrow noHalt world := by
  rw [wp_bind]
  refine wp_mono_ok (wp_retrColinfo_play plays holds read quiet wellFormed.columns) ?_
  rintro _ middle ⟨rfl, cmd', read, described, onHandle, query, -, -⟩
  rw [if_neg (by simp)]
  exact rest cmd' _ middle read rfl rfl ⟨described, Nat.le_max_right _ _⟩ onHandle query

end Rows

/-! ### Announcing results -/

section Announcing

variable (plays : cfg.lib = CtLib.play) (holds : cmd.mCmd.isSome)
  (read : ReadTo id cmd env base world) (quiet : base.xsink = [])
  (waits : cmd.lastRes = .resDone ∨ cmd.lastRes = .resNone ∨ cmd.lastRes = .resRetry)

include read waits in
/-- `read_next_result1` on a command that waits for a result asks for one. -/
theorem wp_readNextResult1_waits (disconnect : Bool) (quiet : world.xsink = [])
    {onOk : ResType × Bool → World Playing → Prop}
    (rest : wp (do
        let reply ← ctCall cfg (.results cmd.mCmd)
        match reply.code with
        | .endResults => pure (.resEnd, disconnect)
        | .fail => do
          let failed ← cancelIntern cfg .readNextResult id
          raiseException "TDS-EXEC-ERROR"
            "command::read_output(): ct_results() failed with CS_FAIL, command canceled"
          pure (.resError, disconnect || failed ≠ 0)
        | .succeed => do
          let res ← announced cfg id reply.resultType
          pure (res, disconnect)
        | code => do
          Connection.doException "TDS-EXEC-ERROR"
            s!"command::read_output(): ct_results() returned error code {code}"
          pure (.resError, disconnect)) onOk noThrow noHalt world) :
    wp (readNextResult1 cfg id disconnect) onOk noThrow noHalt world := by
  rw [readNextResult1, wp_bind, wp_isException, quiet, if_neg (by simp), wp_bind,
    wp_getCommand_some read.commands, if_neg]
  · exact rest
  · rintro ⟨notDone, notNone, notRetry⟩
    rcases waits with done | none | retry
    · exact notDone done
    · exact notNone none
    · exact notRetry retry

include plays holds read quiet waits

/-- At the end of the script there is no result. -/
theorem wp_readNextResult1_end (script : env.script = []) (disconnect : Bool) :
    wp (readNextResult1 cfg id disconnect)
      (fun result after => result = (.resEnd, disconnect) ∧ ReadTo id cmd env base after)
      noThrow noHalt world := by
  refine wp_readNextResult1_waits read waits disconnect (read.xsink.trans quiet) ?_
  rw [wp_bind]
  refine wp_mono_ok (read.call plays holds rfl) ?_
  simp only [CtLib.play, script]
  rintro _ after ⟨rfl, read⟩
  exact ⟨rfl, read⟩

/-- The next announcement of the script. -/
theorem wp_readNextResult1_play {announcement : Announcement} {rest : List Announcement}
    (script : env.script = announcement :: rest) (disconnect : Bool) :
    wp (readNextResult1 cfg id disconnect)
      (fun result after => result = (announcement.res, disconnect) ∧
        ReadTo id (announcement.seen cmd) (env.announce announcement rest) base after)
      noThrow noHalt world := by
  refine wp_readNextResult1_waits read waits disconnect (read.xsink.trans quiet) ?_
  rw [wp_bind]
  refine wp_mono_ok (read.call plays holds rfl) ?_
  simp only [CtLib.play, script]
  rintro _ middle ⟨rfl, read⟩
  cases announcement with
  | done count =>
    rw [wp_bind, Announcement.type, announced, readRowCount, wp_bind]
    refine wp_mono_ok (read.modify _) fun _ _ read => ?_
    rw [wp_bind, wp_getCommand_some read.commands, wp_bind]
    refine wp_mono_ok (read.call plays (by exact holds) rfl) ?_
    rintro _ _ ⟨rfl, read⟩
    rw [if_neg (by simp [CtLib.play]), wp_bind]
    exact wp_mono_ok (read.modify _) fun _ _ read => ⟨rfl, read⟩
  | _ => exact ⟨rfl, read⟩

/-- The next announcement that has a result or a row count. -/
theorem wp_readNextResult_play {before rest : List Announcement} {announcement : Announcement}
    (script : env.script = before ++ announcement :: rest)
    (succeeds : ∀ earlier ∈ before, earlier.isOutput = false)
    (output : announcement.isOutput = true) (enough : before.length < cfg.fuel) :
    wp (readNextResult cfg id)
      (fun result after => result = (announcement.res, false) ∧
        ReadTo id { announcement.seen cmd with lastRes := announcement.res }
          (env.announce announcement rest) base after) noThrow noHalt world := by
  rw [readNextResult]
  generalize cfg.fuel = bound at enough
  induction before generalizing bound world cmd env with
  | nil =>
    obtain ⟨bound, rfl⟩ := Nat.exists_eq_add_of_lt enough
    refine wp_iterate_succ.mpr ?_
    rw [wp_bind]
    refine wp_mono_ok (wp_readNextResult1_play plays holds read quiet waits script false) ?_
    rintro _ middle ⟨rfl, read⟩
    rw [wp_bind]
    refine wp_mono_ok (read.modify _) fun _ _ read => ?_
    rw [if_neg (by cases announcement <;> simp_all [Announcement.res, Announcement.isOutput])]
    exact ⟨rfl, read⟩
  | cons first before inductionHypothesis =>
    obtain ⟨bound, rfl⟩ := Nat.exists_eq_add_of_lt enough
    have isSucceed : first = .succeed := by
      have notOutput := succeeds first List.mem_cons_self
      cases first <;> first | rfl | exact absurd notOutput (by simp [Announcement.isOutput])
    subst isSucceed
    refine wp_iterate_succ.mpr ?_
    rw [wp_bind]
    refine wp_mono_ok (wp_readNextResult1_play plays holds read quiet waits script false) ?_
    rintro _ middle ⟨rfl, read⟩
    rw [wp_bind]
    refine wp_mono_ok (read.modify _) fun _ _ read => ?_
    rw [Announcement.res, if_pos rfl]
    have later := inductionHypothesis (by exact holds) read (.inr (.inr rfl)) rfl
      (fun earlier member => succeeds earlier (List.mem_cons_of_mem _ member))
      (before.length + 1 + bound) (by omega)
    cases announcement <;> exact later

/-- After the last announcement there is no result. -/
theorem wp_readNextResult_end (succeeds : ∀ earlier ∈ env.script, earlier.isOutput = false)
    (enough : env.script.length < cfg.fuel) :
    wp (readNextResult cfg id)
      (fun result after => result = (.resEnd, false) ∧
        ReadTo id { cmd with lastRes := .resEnd } { env with script := [] } base after)
      noThrow noHalt world := by
  obtain ⟨current, count, script⟩ := env
  rw [readNextResult]
  generalize cfg.fuel = bound at enough
  induction script generalizing bound world cmd with
  | nil =>
    obtain ⟨bound, rfl⟩ := Nat.exists_eq_add_of_lt enough
    refine wp_iterate_succ.mpr ?_
    rw [wp_bind]
    refine wp_mono_ok (wp_readNextResult1_end plays holds read quiet waits rfl false) ?_
    rintro _ middle ⟨rfl, read⟩
    rw [wp_bind]
    exact wp_mono_ok (read.modify _) fun _ _ read => ⟨rfl, read⟩
  | cons first script inductionHypothesis =>
    obtain ⟨bound, rfl⟩ := Nat.exists_eq_add_of_lt enough
    have isSucceed : first = .succeed := by
      have notOutput := succeeds first List.mem_cons_self
      cases first <;> first | rfl | exact absurd notOutput (by simp [Announcement.isOutput])
    subst isSucceed
    refine wp_iterate_succ.mpr ?_
    rw [wp_bind]
    refine wp_mono_ok (wp_readNextResult1_play plays holds read quiet waits rfl false) ?_
    rintro _ middle ⟨rfl, read⟩
    rw [wp_bind]
    refine wp_mono_ok (read.modify _) fun _ _ read => ?_
    rw [Announcement.res, if_pos rfl]
    exact inductionHypothesis (by exact holds) (.inr (.inr rfl)) read
      (fun earlier member => succeeds earlier (List.mem_cons_of_mem _ member))
      (script.length + 1 + bound) (by show script.length < _; omega)

end Announcing

/-- Between two results nothing is asked of ct-lib while a result is not read. -/
theorem wp_readNextResult_again (held : world.commands id = some cmd) (quiet : world.xsink = [])
    (stays : cmd.lastRes ≠ .resDone ∧ cmd.lastRes ≠ .resNone ∧ cmd.lastRes ≠ .resRetry)
    (positive : 0 < cfg.fuel) :
    wp (Command.readNextResult cfg id)
      (fun result after => result = (cmd.lastRes, false) ∧ ReadTo id cmd world.env world after)
      noThrow noHalt world := by
  obtain ⟨bound, fuel⟩ := Nat.exists_eq_succ_of_ne_zero (Nat.ne_of_gt positive)
  rw [Command.readNextResult, fuel]
  refine wp_iterate_succ.mpr ?_
  rw [wp_bind, readNextResult1, wp_bind, wp_isException, quiet, if_neg (by simp), wp_bind,
    wp_getCommand_some held, if_pos stays, wp_pure, wp_bind]
  refine wp_mono_ok ((readTo_refl held).modify _) fun _ after read => ?_
  rw [if_neg stays.2.2]
  exact ⟨rfl, read⟩

/-- The first announcement of a script that has a result or a row count, if there is one. -/
theorem exists_output (script : List Announcement) :
    (∀ earlier ∈ script, earlier.isOutput = false) ∨
      ∃ before announcement rest, script = before ++ announcement :: rest ∧
        (∀ earlier ∈ before, earlier.isOutput = false) ∧ announcement.isOutput = true := by
  cases filtered : script.filter Announcement.isOutput with
  | nil => exact .inl fun earlier member =>
      Bool.eq_false_iff.mpr (List.filter_eq_nil_iff.mp filtered earlier member)
  | cons announcement outputs =>
    obtain ⟨before, rest, same, succeeds, output, -⟩ := List.filter_eq_cons_iff.mp filtered
    exact .inr ⟨before, announcement, rest, same,
      fun earlier member => Bool.eq_false_iff.mpr (succeeds earlier member), output⟩

end Command

end Sybase
