/-
This file proves that the row form and the column form of a result agree. Both
name the columns by making the names distinct in the order of the columns, so a
row has the key of each column once, the hash of columns has the same keys in the
same order, and the list under a key holds what the rows hold under it.
-/

import SybaseDriver.Rows
import SybaseDriver.WorldLogic

namespace Sybase

namespace Command

open Program FreshName

variable {σ : Type} {cfg : Config σ}

/-! ### The keys of the columns -/

/-- The digits of a number determine it. -/
theorem decimal_injective : Function.Injective decimal := by
  intro first second same
  have digits := congrArg (fun digits => Nat.ofDigitChars 10 digits 0) same
  simpa only [decimal, Nat.ofDigitChars_toDigits (b := 10) (by decide) (by decide)] using digits

/-- The variants of a name are different. -/
theorem suffixed_injective (name : Text) : Function.Injective (suffixed name) := by
  intro first second same
  exact decimal_injective (List.append_cancel_left same)

/-- The names of the columns from an index on, before they are made distinct. -/
def columnNames (ph : Option (List Text)) : List Datafmt → Nat → List Text
  | [], _ => []
  | datafmt :: columns, index =>
    columnName ph datafmt index :: columnNames ph columns (index + 1)

@[simp] theorem columnNames_length (ph : Option (List Text)) (columns : List Datafmt)
    (index : Nat) : (columnNames ph columns index).length = columns.length := by
  induction columns generalizing index with
  | nil => rfl
  | cons datafmt columns inductionHypothesis =>
    rw [columnNames, List.length_cons, List.length_cons, inductionHypothesis]

/-- The keys of the columns of a result. -/
def columnKeys (ph : Option (List Text)) (columns : List Datafmt) : List Text :=
  (uniqueNames suffixed [] (columnNames ph columns 0)).getD []

/-- The search for the keys of the columns ends. -/
theorem uniqueNames_columnKeys (ph : Option (List Text)) (columns : List Datafmt) :
    uniqueNames suffixed [] (columnNames ph columns 0) = some (columnKeys ph columns) := by
  obtain ⟨keys, found⟩ := Option.isSome_iff_exists.mp
    (uniqueNames_isSome suffixed_injective [] (columnNames ph columns 0))
  rw [columnKeys, found, Option.getD_some]

/-- The keys of the columns are distinct. -/
theorem columnKeys_nodup (ph : Option (List Text)) (columns : List Datafmt) :
    (columnKeys ph columns).Nodup :=
  uniqueNames_nodup List.nodup_nil (uniqueNames_columnKeys ph columns)

@[simp] theorem columnKeys_length (ph : Option (List Text)) (columns : List Datafmt) :
    (columnKeys ph columns).length = columns.length := by
  obtain ⟨new, keys, length⟩ := uniqueNames_append (uniqueNames_columnKeys ph columns)
  rw [keys, List.nil_append, length, columnNames_length]

/-! ### Assigning under a unique key -/

/-- Every value of a hash tests as present. -/
def AllPresent (h : Hash) : Prop := ∀ entry ∈ h, entry.2.isPresent = true

theorem hasValue_iff {h : Hash} (present : AllPresent h) (key : Text) :
    hasValue h key = decide (key ∈ Hash.keys h) := by
  induction h with
  | nil => rfl
  | cons entry h inductionHypothesis =>
    have rest := inductionHypothesis fun other member =>
      present other (List.mem_cons_of_mem _ member)
    by_cases same : key = entry.1
    · have here := present entry List.mem_cons_self
      simp [hasValue, Hash.getKeyValue, List.lookup, same, here]
    · have different : (key == entry.1) = false := beq_false_of_ne same
      simpa [hasValue, Hash.getKeyValue, List.lookup, different, same] using rest

/-- The key of an assignment is the fresh name of the column. -/
theorem uniqueKey_eq {h : Hash} (present : AllPresent h) (name : Text) :
    uniqueKey h name = freshName suffixed (Hash.keys h) name := by
  unfold uniqueKey freshName
  simp only [hasValue_iff present, decide_eq_true_eq]
  rw [Hash.keys, List.length_map]
  congr!

/-- An assignment adds a new key at the end. -/
theorem assign_eq {h : Hash} (present : AllPresent h) {name key : Text}
    (found : freshName suffixed (Hash.keys h) name = some key) (value : QoreValue) :
    (assign h name value : Driver σ Hash) = pure (h ++ [(key, value)]) := by
  rw [assign, uniqueKey_eq present, found]
  exact congrArg pure (Hash.setKeyValue_of_notMem value (freshName_notMem found))

theorem AllPresent.append {h : Hash} (present : AllPresent h) {key : Text} {value : QoreValue}
    (isPresent : value.isPresent = true) : AllPresent (h ++ [(key, value)]) := by
  intro entry member
  rcases List.mem_append.mp member with before | last
  · exact present entry before
  · rw [List.mem_singleton.mp last]
    exact isPresent

/-- The keys that come after those there already. -/
theorem uniqueNames_cons {taken rest new : List Text} {name : Text}
    (renamed : uniqueNames suffixed taken (name :: rest) = some (taken ++ new)) :
    ∃ key new', new = key :: new' ∧ freshName suffixed taken name = some key ∧
      uniqueNames suffixed (taken ++ [key]) rest = some ((taken ++ [key]) ++ new') := by
  obtain ⟨key, found, renamed⟩ := Option.bind_eq_some_iff.mp renamed
  obtain ⟨new', keys, -⟩ := uniqueNames_append renamed
  have same : new = key :: new' := by
    rw [List.append_assoc] at keys
    exact List.append_cancel_left keys
  exact ⟨key, new', same, found, by rw [renamed, keys]⟩

/-- `setupColumns` adds an empty list under the key of each column. -/
theorem setupColumnsFrom_eq (ph : Option (List Text)) (columns : List Datafmt) (index : Nat)
    {h : Hash} (present : AllPresent h) {new : List Text}
    (renamed : uniqueNames suffixed (Hash.keys h) (columnNames ph columns index) =
      some (Hash.keys h ++ new)) :
    (setupColumnsFrom ph columns index h : Driver σ Hash) =
      pure (h ++ new.map fun key => (key, .list [])) := by
  induction columns generalizing index h new with
  | nil =>
    have none : new = [] := List.append_right_eq_self.mp (Option.some_inj.mp renamed).symm
    rw [none, List.map_nil, List.append_nil]
    rfl
  | cons datafmt columns inductionHypothesis =>
    obtain ⟨key, new', rfl, found, renamed⟩ := uniqueNames_cons renamed
    have keys : Hash.keys (h ++ [(key, QoreValue.list [])]) = Hash.keys h ++ [key] := by simp
    rw [← keys] at renamed
    rw [setupColumnsFrom, assign_eq present found]
    exact (inductionHypothesis (index + 1) (present.append rfl) renamed).trans
      (by rw [List.append_assoc]; rfl)

/-! ### Decoding a row -/

/-- The values of the cells of a row, if all of them decode. -/
def decodeCells (cfg : Config σ) : List Datafmt → List Cell → Option (List QoreValue)
  | [], [] => some []
  | datafmt :: columns, cell :: cells =>
    match decode cfg datafmt cell with
    | .value value => (decodeCells cfg columns cells).map (value :: ·)
    | _ => none
  | _, _ => none

/-- The first cell of a row that decodes, and the others. -/
theorem decodeCells_cons {datafmt : Datafmt} {columns : List Datafmt} {cells : List Cell}
    {values : List QoreValue} (decoded : decodeCells cfg (datafmt :: columns) cells = some values) :
    ∃ cell cells' value values', cells = cell :: cells' ∧ values = value :: values' ∧
      decode cfg datafmt cell = .value value ∧ decodeCells cfg columns cells' = some values' := by
  cases cells with
  | nil => exact absurd decoded (by simp [decodeCells])
  | cons cell cells =>
    rw [decodeCells] at decoded
    split at decoded
    · rename_i value isValue
      obtain ⟨values', rest, rfl⟩ := Option.map_eq_some_iff.mp decoded
      exact ⟨cell, cells, value, values', rfl, rfl, isValue, rest⟩
    · exact absurd decoded (by simp)

theorem decodeCells_length {columns : List Datafmt} {cells : List Cell} {values : List QoreValue}
    (decoded : decodeCells cfg columns cells = some values) :
    cells.length = columns.length ∧ values.length = columns.length := by
  induction columns generalizing cells values with
  | nil =>
    cases cells with
    | nil => exact ⟨rfl, congrArg List.length (Option.some_inj.mp decoded).symm⟩
    | cons cell cells => exact absurd decoded (by simp [decodeCells])
  | cons datafmt columns inductionHypothesis =>
    obtain ⟨cell, cells', value, values', rfl, rfl, -, rest⟩ := decodeCells_cons decoded
    obtain ⟨cellsLength, valuesLength⟩ := inductionHypothesis rest
    exact ⟨congrArg Nat.succ cellsLength, congrArg Nat.succ valuesLength⟩

/-- A decoded value tests as present. -/
theorem decode_isPresent {datafmt : Datafmt} {cell : Cell} {value : QoreValue}
    (decoded : decode cfg datafmt cell = .value value) : value.isPresent = true := by
  have int : ∀ value, (QoreValue.int value).isPresent = true := fun _ => rfl
  have digits : ∀ digits, (QoreValue.number digits).isPresent = true := fun _ => rfl
  have number : ∀ support str, (getNumber support str).isPresent = true := by
    intro support str
    simp only [getNumber, apply_ite QoreValue.isPresent, int, digits, ite_self]
  have string : ∀ str, (stringValue cfg datafmt str).isPresent = true := by
    intro str
    unfold stringValue
    split
    · exact number _ _
    · rfl
  unfold decode at decoded
  split at decoded
  · rw [← Decoded.value.inj decoded]
    rfl
  · split at decoded <;> (try split at decoded) <;> cases decoded <;> first | rfl | exact string _

/-! ### The state after reading -/

/-- The state after reading from a command: besides ct-lib, its messages and the log, only the
command itself has changed. -/
def ReadTo (id : CommandId) (cmd : Command) (env : σ) (world after : World σ) : Prop :=
  ∃ log clientMsgs serverMsgs, after = { world with
    env := env
    log := log
    clientMsgs := clientMsgs
    serverMsgs := serverMsgs
    commands := Function.update world.commands id (some cmd) }

theorem ReadTo.trans {id : CommandId} {cmd cmd' : Command} {env env' : σ}
    {world middle after : World σ} (first : ReadTo id cmd env world middle)
    (second : ReadTo id cmd' env' middle after) : ReadTo id cmd' env' world after := by
  obtain ⟨_, _, _, rfl⟩ := first
  obtain ⟨log, clientMsgs, serverMsgs, rfl⟩ := second
  exact ⟨log, clientMsgs, serverMsgs, by simp only [Function.update_idem]⟩

theorem ReadTo.commands {id : CommandId} {cmd : Command} {env : σ} {world after : World σ}
    (read : ReadTo id cmd env world after) : after.commands id = some cmd := by
  obtain ⟨_, _, _, rfl⟩ := read
  exact Function.update_self id (some cmd) world.commands

theorem ReadTo.xsink {id : CommandId} {cmd : Command} {env : σ} {world after : World σ}
    (read : ReadTo id cmd env world after) : after.xsink = world.xsink := by
  obtain ⟨_, _, _, rfl⟩ := read
  rfl

theorem ReadTo.env {id : CommandId} {cmd : Command} {env : σ} {world after : World σ}
    (read : ReadTo id cmd env world after) : after.env = env := by
  obtain ⟨_, _, _, rfl⟩ := read
  rfl

/-- The state after writing to the log. -/
def Logged (world after : World σ) : Prop := ∃ log, after = { world with log := log }

theorem Logged.refl (world : World σ) : Logged world world := ⟨world.log, rfl⟩

theorem Logged.trans {world middle after : World σ} (first : Logged world middle)
    (second : Logged middle after) : Logged world after := by
  obtain ⟨_, rfl⟩ := first
  obtain ⟨log, rfl⟩ := second
  exact ⟨log, rfl⟩

theorem Logged.xsink {world after : World σ} (logged : Logged world after) :
    after.xsink = world.xsink := by
  obtain ⟨_, rfl⟩ := logged
  rfl

/-- Writing to the log leaves a command as it is. -/
theorem Logged.readTo {id : CommandId} {cmd : Command} {world after : World σ}
    (held : world.commands id = some cmd) (logged : Logged world after) :
    ReadTo id cmd world.env world after := by
  obtain ⟨log, rfl⟩ := logged
  exact ⟨log, world.clientMsgs, world.serverMsgs, by
    rw [← held, Function.update_eq_self]⟩

/-! ### Reading the buffers -/

section Buffers

variable {world : World σ}

theorem wp_getValue {datafmt : Datafmt} {cell : Cell} {value : QoreValue}
    (decoded : decode cfg datafmt cell = .value value) :
    wp (getValue cfg datafmt cell) (fun read after => read = value ∧ Logged world after)
      noThrow noHalt world := by
  rw [getValue, wp_bind, wp_modify, decoded]
  exact ⟨rfl, ⟨_, rfl⟩⟩

/-- A row whose cells decode is read as the hash of its values under the keys of the columns. -/
theorem wp_outputBuffersToHashFrom (ph : Option (List Text)) {columns : List Datafmt}
    {buffers : List OutputValueBuffer} {values : List QoreValue} {index : Nat} (result : Hash)
    {new : List Text} (quiet : world.xsink = []) (present : AllPresent result)
    (decoded : decodeCells cfg columns (buffers.map OutputValueBuffer.cell) = some values)
    (renamed : uniqueNames suffixed (Hash.keys result) (columnNames ph columns index) =
      some (Hash.keys result ++ new)) :
    wp (outputBuffersToHashFrom cfg ph columns buffers index result)
      (fun row after => row = some (result ++ new.zip values) ∧ Logged world after)
      noThrow noHalt world := by
  induction columns generalizing buffers values index result new world with
  | nil =>
    have none : new = [] := List.append_right_eq_self.mp (Option.some_inj.mp renamed).symm
    rw [outputBuffersToHashFrom, none, List.zip_nil_left, List.append_nil]
    exact ⟨rfl, Logged.refl world⟩
  | cons datafmt columns inductionHypothesis =>
    obtain ⟨cell, cells, value, values', cellsEq, rfl, isValue, rest⟩ := decodeCells_cons decoded
    obtain ⟨buffer, buffers', rfl, rfl, rfl⟩ := List.map_eq_cons_iff.mp cellsEq
    obtain ⟨key, new', rfl, found, renamed⟩ := uniqueNames_cons renamed
    have keys : Hash.keys (result ++ [(key, value)]) = Hash.keys result ++ [key] := by simp
    rw [← keys] at renamed
    rw [outputBuffersToHashFrom, wp_bind]
    refine wp_mono_ok (wp_getValue isValue) ?_
    rintro _ after ⟨rfl, logged⟩
    have quietAfter : after.xsink = [] := logged.xsink.trans quiet
    simp only [wp_bind, wp_isException, quietAfter, List.isEmpty_nil, Bool.not_true,
      Bool.false_eq_true, if_false]
    rw [assign_eq present found, wp_pure]
    refine wp_mono_ok (inductionHypothesis _ quietAfter (present.append (decode_isPresent isValue))
      rest renamed) ?_
    rintro row last ⟨rfl, loggedRest⟩
    exact ⟨by rw [List.append_assoc]; rfl, logged.trans loggedRest⟩

/-- The hash of the columns from an index on, for the rows read so far. -/
def columnsFrom (rows : List (List QoreValue)) : List Text → Nat → Hash
  | [], _ => []
  | key :: keys, index =>
    (key, .list (rows.map fun row => row.getD index .nothing)) ::
      columnsFrom rows keys (index + 1)

/-- A row whose cells decode is appended to the lists of the hash of columns. -/
theorem wp_appendFrom {columns : List Datafmt} {buffers : List OutputValueBuffer}
    {values row : List QoreValue} (rows : List (List QoreValue)) (keys : List Text) (index : Nat)
    (quiet : world.xsink = []) (length : keys.length = columns.length)
    (decoded : decodeCells cfg columns (buffers.map OutputValueBuffer.cell) = some values)
    (suffix : row.drop index = values) :
    wp (appendFrom cfg columns buffers (columnsFrom rows keys index))
      (fun h after => h = some (columnsFrom (rows ++ [row]) keys index) ∧ Logged world after)
      noThrow noHalt world := by
  induction columns generalizing buffers values keys index world with
  | nil =>
    rw [List.eq_nil_of_length_eq_zero length]
    exact ⟨rfl, Logged.refl world⟩
  | cons datafmt columns inductionHypothesis =>
    obtain ⟨cell, cells, value, values', cellsEq, rfl, isValue, rest⟩ := decodeCells_cons decoded
    obtain ⟨buffer, buffers', rfl, rfl, rfl⟩ := List.map_eq_cons_iff.mp cellsEq
    obtain ⟨key, keys', rfl⟩ := List.exists_cons_of_length_eq_add_one length
    have here : row.getD index .nothing = value := by
      rw [List.getD_eq_getElem?_getD, ← List.head?_drop, suffix]
      rfl
    have later : row.drop (index + 1) = values' := by
      rw [← List.tail_drop, suffix]
      rfl
    rw [columnsFrom, appendFrom, wp_bind]
    refine wp_mono_ok (wp_getValue isValue) ?_
    rintro _ after ⟨rfl, logged⟩
    have quietAfter : after.xsink = [] := logged.xsink.trans quiet
    simp only [wp_bind, wp_isException, quietAfter, List.isEmpty_nil, Bool.not_true,
      Bool.false_eq_true, if_false]
    refine wp_mono_ok (inductionHypothesis keys' (index + 1) quietAfter (Nat.succ.inj length) rest
      later) ?_
    rintro appended last ⟨rfl, loggedRest⟩
    refine ⟨?_, logged.trans loggedRest⟩
    rw [Option.map_some, columnsFrom, List.map_append, List.map_singleton, here]

end Buffers

/-! ### Fetching rows -/

/-- ct-lib answers the fetches of a command with some rows, and then with the end of the data. -/
inductive Fetches (lib : CtLib σ) (handle : Option Handle) : σ → List (List Cell) → σ → Prop where
  | endData {env : σ} (code : (lib.reply (.fetch handle) env).1.code = .endData) :
      Fetches lib handle env [] (lib.reply (.fetch handle) env).2
  | row {env last : σ} {rows : List (List Cell)}
      (code : (lib.reply (.fetch handle) env).1.code = .succeed)
      (one : (lib.reply (.fetch handle) env).1.number = 1)
      (rest : Fetches lib handle (lib.reply (.fetch handle) env).2 rows last) :
      Fetches lib handle env ((lib.reply (.fetch handle) env).1.cells :: rows) last

/-- A command whose columns are described and bound. -/
structure Described (cmd : Command) (columns : List Datafmt) : Prop where
  colinfo : cmd.colinfo = ⟨false, columns⟩
  buffers : cmd.outBuffers.length = columns.length

theorem storeCells_eq {buffers : List OutputValueBuffer} {cells : List Cell}
    (length : buffers.length = cells.length) :
    (storeCells buffers cells).map OutputValueBuffer.cell = cells ∧
      (storeCells buffers cells).length = cells.length := by
  induction buffers generalizing cells with
  | nil =>
    rw [List.eq_nil_of_length_eq_zero length.symm]
    exact ⟨rfl, rfl⟩
  | cons buffer buffers inductionHypothesis =>
    obtain ⟨cell, cells', rfl⟩ := List.exists_cons_of_length_eq_add_one length.symm
    obtain ⟨cellsEq, lengthEq⟩ := inductionHypothesis (Nat.succ.inj length)
    exact ⟨congrArg (cell :: ·) cellsEq, congrArg Nat.succ lengthEq⟩

/-- A command after a row was stored in its buffers. -/
def store (cmd : Command) (cells : List Cell) : Command :=
  { cmd with outBuffers := storeCells cmd.outBuffers cells }

section Fetching

variable {world : World σ} {id : CommandId} {cmd : Command} {columns : List Datafmt}

/-- The state after a call about a command that is then changed. -/
theorem readTo_answered (held : world.commands id = some cmd) (call : CtCall)
    (change : Command → Command) :
    ReadTo id (change cmd) (cfg.lib.reply call world.env).2 world
      { world.answered cfg.lib .other call with
        commands := Function.update world.commands id ((world.commands id).map change) } :=
  ⟨_, _, _, by rw [held]; rfl⟩

/-- A fetch that returns a row. -/
theorem wp_fetchRowIntoBuffers_row (held : world.commands id = some cmd)
    (code : (cfg.lib.reply (.fetch cmd.mCmd) world.env).1.code = .succeed)
    (one : (cfg.lib.reply (.fetch cmd.mCmd) world.env).1.number = 1) :
    wp (fetchRowIntoBuffers cfg id)
      (fun more after => more = true ∧
        ReadTo id (store cmd (cfg.lib.reply (.fetch cmd.mCmd) world.env).1.cells)
        (cfg.lib.reply (.fetch cmd.mCmd) world.env).2 world after) noThrow noHalt world := by
  rw [fetchRowIntoBuffers, wp_bind, wp_getCommand_some held, wp_bind, wp_ctCall]
  simp only [code, wp_bind, wp_modifyCommand, wp_when, one, ne_eq, not_true_eq_false,
    not_false_eq_true, false_imp_iff, true_imp_iff, true_and,
    wp_pure]
  exact readTo_answered held _ fun stored =>
    store stored (cfg.lib.reply (.fetch cmd.mCmd) world.env).1.cells

/-- A fetch after the last row. -/
theorem wp_fetchRowIntoBuffers_endData (held : world.commands id = some cmd)
    (code : (cfg.lib.reply (.fetch cmd.mCmd) world.env).1.code = .endData) :
    wp (fetchRowIntoBuffers cfg id)
      (fun more after => more = false ∧ ReadTo id { cmd with lastRes := .resNone }
        (cfg.lib.reply (.fetch cmd.mCmd) world.env).2 world after) noThrow noHalt world := by
  rw [fetchRowIntoBuffers, wp_bind, wp_getCommand_some held, wp_bind, wp_ctCall]
  simp only [code, wp_bind, wp_modifyCommand, wp_pure, true_and]
  exact readTo_answered held _ fun cmd => { cmd with lastRes := .resNone }

/-- The buffers of a command after a row with as many cells as there are columns. -/
theorem Described.store (described : Described cmd columns) {cells : List Cell}
    (length : cells.length = columns.length) :
    Described (store cmd cells) columns ∧ (store cmd cells).outBuffers.map OutputValueBuffer.cell =
      cells := by
  obtain ⟨cellsEq, lengthEq⟩ := storeCells_eq (described.buffers.trans length.symm)
  exact ⟨⟨described.colinfo, lengthEq.trans length⟩, cellsEq⟩

/-- The row in the buffers of a command. -/
theorem wp_outputBuffersToHash (ph : Option (List Text)) (held : world.commands id = some cmd)
    (described : Described cmd columns) (quiet : world.xsink = []) {values : List QoreValue}
    (decoded : decodeCells cfg columns (cmd.outBuffers.map OutputValueBuffer.cell) =
      some values) :
    wp (outputBuffersToHash cfg id ph)
      (fun row after => row = some ((columnKeys ph columns).zip values) ∧ Logged world after)
      noThrow noHalt world := by
  rw [outputBuffersToHash, wp_bind, wp_getCommand_some held, described.colinfo]
  exact wp_outputBuffersToHashFrom ph [] quiet
    (fun _ member => absurd member List.not_mem_nil) decoded (uniqueNames_columnKeys ph columns)

/-- The exception for a second row where only one is expected. -/
def secondRow : QoreException :=
  ⟨"DBI-SELECT-ROW-ERROR", "SQL passed to selectRow() returned more than 1 row"⟩

/-- One pass of the loop of `read_rows` on a row that decodes: the row is added to those read,
unless it is the second one where only one is expected. -/
theorem wp_readRowsOnce_decoded (ph : Option (List Text)) (singleRow : Bool) (read : List Hash)
    (held : world.commands id = some cmd) (described : Described cmd columns)
    (quiet : world.xsink = [])
    (code : (cfg.lib.reply (.fetch cmd.mCmd) world.env).1.code = .succeed)
    (one : (cfg.lib.reply (.fetch cmd.mCmd) world.env).1.number = 1) {values : List QoreValue}
    (decoded : decodeCells cfg columns (cfg.lib.reply (.fetch cmd.mCmd) world.env).1.cells =
      some values) :
    wp (readRowsOnce cfg id ph singleRow read)
      (fun result after => ∃ buffers fetched, Described { cmd with outBuffers := buffers } columns ∧
        ReadTo id { cmd with outBuffers := buffers }
          (cfg.lib.reply (.fetch cmd.mCmd) world.env).2 world fetched ∧
        if singleRow = true ∧ read.length = 1 then
          result = .inr .nothing ∧ after = { fetched with xsink := [secondRow] }
        else result = .inl (read ++ [(columnKeys ph columns).zip values]) ∧ after = fetched)
      noThrow noHalt world := by
  obtain ⟨stored, cellsEq⟩ := described.store (decodeCells_length decoded).1
  rw [readRowsOnce, wp_bind]
  refine wp_mono_ok (wp_fetchRowIntoBuffers_row held code one) ?_
  rintro _ after ⟨rfl, readTo⟩
  simp only [if_true, wp_bind]
  refine wp_mono_ok (wp_outputBuffersToHash ph readTo.commands stored (readTo.xsink.trans quiet)
    (cellsEq.symm ▸ decoded)) ?_
  rintro _ last ⟨rfl, logged⟩
  have quietLast : last.xsink = [] := (logged.xsink.trans readTo.xsink).trans quiet
  have readLast := readTo.trans (logged.readTo readTo.commands)
  simp only [wp_isException, quietLast, List.isEmpty_nil, Bool.not_true, Bool.false_eq_true,
    if_false]
  by_cases second : singleRow = true ∧ read.length = 1
  · rw [if_pos second, wp_bind, wp_raiseException, quietLast]
    exact ⟨_, last, stored, readTo.env ▸ readLast, by rw [if_pos second]; exact ⟨rfl, rfl⟩⟩
  · rw [if_neg second]
    exact ⟨_, last, stored, readTo.env ▸ readLast, by rw [if_neg second]; exact ⟨rfl, rfl⟩⟩

/-- One pass of the loop of `read_rows` on a row that decodes. -/
theorem wp_readRowsOnce_row (ph : Option (List Text)) (read : List Hash)
    (held : world.commands id = some cmd) (described : Described cmd columns)
    (quiet : world.xsink = [])
    (code : (cfg.lib.reply (.fetch cmd.mCmd) world.env).1.code = .succeed)
    (one : (cfg.lib.reply (.fetch cmd.mCmd) world.env).1.number = 1) {values : List QoreValue}
    (decoded : decodeCells cfg columns (cfg.lib.reply (.fetch cmd.mCmd) world.env).1.cells =
      some values) :
    wp (readRowsOnce cfg id ph false read)
      (fun result after => result = .inl (read ++ [(columnKeys ph columns).zip values]) ∧
        ∃ buffers, Described { cmd with outBuffers := buffers } columns ∧
          ReadTo id { cmd with outBuffers := buffers }
            (cfg.lib.reply (.fetch cmd.mCmd) world.env).2 world after) noThrow noHalt world := by
  refine wp_mono_ok (wp_readRowsOnce_decoded ph false read held described quiet code one decoded) ?_
  rintro result after ⟨buffers, fetched, stored, readTo, ends⟩
  rw [if_neg (by simp)] at ends
  obtain ⟨rfl, rfl⟩ := ends
  exact ⟨rfl, buffers, stored, readTo⟩

/-- One pass of the loop of `read_rows` after the last row. -/
theorem wp_readRowsOnce_endData (ph : Option (List Text)) (singleRow : Bool) (read : List Hash)
    (held : world.commands id = some cmd)
    (code : (cfg.lib.reply (.fetch cmd.mCmd) world.env).1.code = .endData) :
    wp (readRowsOnce cfg id ph singleRow read)
      (fun result after => result = .inr (rowsValue read) ∧
        ReadTo id { cmd with lastRes := .resNone }
          (cfg.lib.reply (.fetch cmd.mCmd) world.env).2 world after) noThrow noHalt world := by
  rw [readRowsOnce, wp_bind]
  refine wp_mono_ok (wp_fetchRowIntoBuffers_endData held code) ?_
  rintro _ after ⟨rfl, readTo⟩
  exact ⟨rfl, readTo⟩

/-- The rows of a result decode to rows of values. -/
def DecodesTo (cfg : Config σ) (columns : List Datafmt) :
    List (List Cell) → List (List QoreValue) → Prop :=
  List.Forall₂ fun cells row => decodeCells cfg columns cells = some row

/-- The loop of `read_rows` on rows that decode. -/
theorem wp_iterate_readRowsOnce (ph : Option (List Text)) {handle : Option Handle} {env last : σ}
    {rows : List (List Cell)} (fetched : Fetches cfg.lib handle env rows last) {bound : Nat}
    (read : List Hash) {values : List (List QoreValue)} (enough : rows.length < bound)
    (atEnv : world.env = env) (onHandle : cmd.mCmd = handle)
    (held : world.commands id = some cmd) (described : Described cmd columns)
    (quiet : world.xsink = []) (decoded : DecodesTo cfg columns rows values) :
    wp (iterate .exhausted (readRowsOnce cfg id ph false) bound read)
      (fun value after =>
        value = rowsValue (read ++ values.map fun row => (columnKeys ph columns).zip row) ∧
        ∃ buffers, Described { cmd with outBuffers := buffers } columns ∧
          ReadTo id { cmd with outBuffers := buffers, lastRes := .resNone } last world after)
      noThrow noHalt world := by
  induction fetched generalizing bound read values world cmd with
  | endData code =>
    obtain ⟨bound, rfl⟩ := Nat.exists_eq_add_of_lt enough
    subst atEnv onHandle
    cases decoded
    refine wp_iterate_succ.mpr (wp_mono_ok (wp_readRowsOnce_endData ph false read held code) ?_)
    rintro _ after ⟨rfl, readTo⟩
    exact ⟨by rw [List.map_nil, List.append_nil], cmd.outBuffers, described, readTo⟩
  | row code one rest inductionHypothesis =>
    obtain ⟨bound, rfl⟩ := Nat.exists_eq_add_of_lt enough
    subst atEnv onHandle
    cases decoded with
    | cons here later =>
      refine wp_iterate_succ.mpr (wp_mono_ok
        (wp_readRowsOnce_row ph read held described quiet code one here) ?_)
      rintro _ after ⟨rfl, buffers, stored, readTo⟩
      have onHandle : ({ cmd with outBuffers := buffers } : Command).mCmd = cmd.mCmd := rfl
      have fewer := Nat.lt_of_succ_lt_succ (List.length_cons ▸ enough)
      refine wp_mono_ok (inductionHypothesis _ (by omega) readTo.env onHandle readTo.commands stored
        (readTo.xsink.trans quiet) later) ?_
      rintro _ final ⟨rfl, buffers, described, readRest⟩
      exact ⟨by rw [List.append_assoc]; rfl, buffers, described, readTo.trans readRest⟩

/-- The loop of `read_rows` where one row is expected and there is at most one. -/
theorem wp_iterate_readRowsOnce_single (ph : Option (List Text)) {last : σ}
    {rows : List (List Cell)} (fetched : Fetches cfg.lib cmd.mCmd world.env rows last) {bound : Nat}
    {values : List (List QoreValue)} (few : rows.length ≤ 1) (enough : rows.length < bound)
    (held : world.commands id = some cmd) (described : Described cmd columns)
    (quiet : world.xsink = []) (decoded : DecodesTo cfg columns rows values) :
    wp (iterate .exhausted (readRowsOnce cfg id ph true) bound [])
      (fun value after => value = rowsValue
        (values.map fun row => (columnKeys ph columns).zip row) ∧
        ∃ buffers, ReadTo id { cmd with outBuffers := buffers, lastRes := .resNone } last
          world after)
      noThrow noHalt world := by
  obtain ⟨bound, rfl⟩ := Nat.exists_eq_add_of_lt enough
  cases fetched with
  | endData code =>
    cases decoded
    refine wp_iterate_succ.mpr (wp_mono_ok (wp_readRowsOnce_endData ph true [] held code) ?_)
    rintro _ after ⟨rfl, readTo⟩
    exact ⟨rfl, cmd.outBuffers, readTo⟩
  | row code one rest =>
    cases decoded with
    | cons here later =>
      refine wp_iterate_succ.mpr (wp_mono_ok
        (wp_readRowsOnce_decoded ph true [] held described quiet code one here) ?_)
      rintro _ after ⟨buffers, fetched, stored, readTo, ends⟩
      rw [if_neg (by simp)] at ends
      obtain ⟨rfl, rfl⟩ := ends
      cases rest with
      | row => exact absurd few (by simp)
      | endData code' =>
        cases later
        rw [← readTo.env] at code' ⊢
        rw [List.length_singleton, Nat.add_comm]
        refine wp_iterate_succ.mpr (wp_mono_ok
          (wp_readRowsOnce_endData ph true _ readTo.commands code') ?_)
        rintro _ last ⟨rfl, readLast⟩
        exact ⟨rfl, buffers, readTo.trans readLast⟩

/-- The loop of `read_rows` where one row is expected and there are more. -/
theorem wp_iterate_readRowsOnce_second (ph : Option (List Text)) {last : σ}
    {rows : List (List Cell)} (fetched : Fetches cfg.lib cmd.mCmd world.env rows last) {bound : Nat}
    {values : List (List QoreValue)} (several : 1 < rows.length) (enough : 1 < bound)
    (held : world.commands id = some cmd) (described : Described cmd columns)
    (quiet : world.xsink = []) (decoded : DecodesTo cfg columns rows values) :
    wp (iterate .exhausted (readRowsOnce cfg id ph true) bound [])
      (fun value after => value = .nothing ∧ ∃ buffers env fetched,
        ReadTo id { cmd with outBuffers := buffers } env world fetched ∧
        after = { fetched with xsink := [secondRow] })
      noThrow noHalt world := by
  obtain ⟨bound, rfl⟩ := Nat.exists_eq_add_of_lt enough
  cases fetched with
  | endData => exact absurd several (by simp)
  | row code one rest =>
    cases decoded with
    | cons here later =>
      rw [Nat.add_comm 1, Nat.add_assoc]
      refine wp_iterate_succ.mpr (wp_mono_ok
        (wp_readRowsOnce_decoded ph true [] held described quiet code one here) ?_)
      rintro _ middle ⟨buffers, fetched, stored, readTo, ends⟩
      rw [if_neg (by simp)] at ends
      obtain ⟨rfl, rfl⟩ := ends
      cases rest with
      | endData => exact absurd several (by simp)
      | row code' one' rest =>
        cases later with
        | cons here' later =>
          rw [← readTo.env] at code' one' here'
          have quiet' := readTo.xsink.trans quiet
          refine wp_iterate_succ.mpr (wp_mono_ok
            (wp_readRowsOnce_decoded ph true _ readTo.commands stored quiet' code' one' here') ?_)
          rintro _ after ⟨buffers', fetched', stored', readTo', ends⟩
          rw [if_pos (by simp)] at ends
          obtain ⟨rfl, rfl⟩ := ends
          exact ⟨rfl, buffers', _, fetched', readTo.trans readTo', rfl⟩

/-- The hash of columns before the first row: empty, or with an empty list for each column. -/
theorem setupColumns_eq (ph : Option (List Text)) (columns : List Datafmt) :
    (setupColumnsFrom ph columns 0 [] : Driver σ Hash) =
      pure (columnsFrom [] (columnKeys ph columns) 0) := by
  have lists : ∀ keys index,
      columnsFrom [] keys index = keys.map fun key => (key, QoreValue.list []) := by
    intro keys
    induction keys with
    | nil => exact fun _ => rfl
    | cons key keys inductionHypothesis =>
      intro index
      rw [columnsFrom, inductionHypothesis, List.map_nil, List.map_cons]
  rw [lists]
  exact setupColumnsFrom_eq ph columns 0 (fun _ member => absurd member List.not_mem_nil)
    (uniqueNames_columnKeys ph columns)

/-- The columns hold the rows read so far, or nothing was read or set up yet. -/
def ColumnsOf (ph : Option (List Text)) (columns : List Datafmt) (read : List (List QoreValue))
    (h : Hash) : Prop :=
  h = columnsFrom read (columnKeys ph columns) 0 ∨ h = [] ∧ read = []

/-- The hash of columns a row is appended to. -/
theorem wp_setupIfEmpty (ph : Option (List Text)) {read : List (List QoreValue)} {h : Hash}
    (held : world.commands id = some cmd) (described : Described cmd columns)
    (columnsOf : ColumnsOf ph columns read h) :
    wp (setupColumnsIf h.isEmpty id ph h)
      (fun set after => set = columnsFrom read (columnKeys ph columns) 0 ∧ after = world)
      noThrow noHalt world := by
  have setUp : wp (setupColumns id ph []) (fun set after =>
      set = columnsFrom [] (columnKeys ph columns) 0 ∧ after = world) noThrow noHalt world := by
    rw [setupColumns, wp_bind, wp_getCommand_some held, described.colinfo, setupColumns_eq]
    exact ⟨rfl, rfl⟩
  rcases columnsOf with rfl | ⟨rfl, rfl⟩
  · cases keys : columnKeys ph columns with
    | nil =>
      rw [keys] at setUp
      exact setUp
    | cons key rest => exact ⟨rfl, rfl⟩
  · exact setUp

/-- One pass of the loop of `read_cols` on a row that decodes. -/
theorem wp_readColsOnce_row (ph : Option (List Text)) {cnt : Int} (unlimited : cnt ≤ 0)
    {read : List (List QoreValue)} {h : Hash} (columnsOf : ColumnsOf ph columns read h)
    (held : world.commands id = some cmd) (described : Described cmd columns)
    (quiet : world.xsink = [])
    (code : (cfg.lib.reply (.fetch cmd.mCmd) world.env).1.code = .succeed)
    (one : (cfg.lib.reply (.fetch cmd.mCmd) world.env).1.number = 1) {row : List QoreValue}
    (decoded : decodeCells cfg columns (cfg.lib.reply (.fetch cmd.mCmd) world.env).1.cells =
      some row) :
    wp (readColsOnce cfg id ph (cnt, h))
      (fun result after =>
        result = .inl (cnt - 1, columnsFrom (read ++ [row]) (columnKeys ph columns) 0) ∧
        ∃ buffers, Described { cmd with outBuffers := buffers } columns ∧
          ReadTo id { cmd with outBuffers := buffers }
            (cfg.lib.reply (.fetch cmd.mCmd) world.env).2 world after) noThrow noHalt world := by
  obtain ⟨stored, cellsEq⟩ := described.store (decodeCells_length decoded).1
  rw [readColsOnce, wp_bind]
  refine wp_mono_ok (wp_fetchRowIntoBuffers_row held code one) ?_
  rintro _ after ⟨rfl, readTo⟩
  rw [if_pos rfl, wp_bind]
  refine wp_mono_ok (wp_setupIfEmpty ph readTo.commands stored columnsOf) ?_
  rintro _ _ ⟨rfl, rfl⟩
  rw [wp_bind, appendBuffersToList, wp_bind, wp_getCommand_some readTo.commands, stored.colinfo]
  refine wp_mono_ok (wp_appendFrom read (columnKeys ph columns) 0
    (readTo.xsink.trans quiet) (columnKeys_length ph columns) (cellsEq.symm ▸ decoded)
    (List.drop_zero)) ?_
  rintro _ last ⟨rfl, logged⟩
  have readLast := readTo.trans (logged.readTo readTo.commands)
  have more : ¬cnt - 1 = 0 := by omega
  simp only [if_neg more, wp_pure, true_and]
  exact ⟨_, stored, readTo.env ▸ readLast⟩

/-- The loop of `read_cols` on rows that decode. -/
theorem wp_iterate_readColsOnce (ph : Option (List Text)) {handle : Option Handle} {env last : σ}
    {rows : List (List Cell)} (fetched : Fetches cfg.lib handle env rows last) {bound : Nat}
    {cnt : Int} (unlimited : cnt ≤ 0) {read : List (List QoreValue)} {h : Hash}
    (columnsOf : ColumnsOf ph columns read h)
    {values : List (List QoreValue)} (enough : rows.length < bound)
    (atEnv : world.env = env) (onHandle : cmd.mCmd = handle)
    (held : world.commands id = some cmd) (described : Described cmd columns)
    (quiet : world.xsink = []) (decoded : DecodesTo cfg columns rows values) :
    wp (iterate .exhausted (readColsOnce cfg id ph) bound (cnt, h))
      (fun result after =>
        result = some (if values = [] then h
          else columnsFrom (read ++ values) (columnKeys ph columns) 0) ∧
        ∃ buffers, Described { cmd with outBuffers := buffers } columns ∧
          ReadTo id { cmd with outBuffers := buffers, lastRes := .resNone } last world after)
      noThrow noHalt world := by
  induction fetched generalizing bound cnt read h values world cmd with
  | endData code =>
    obtain ⟨bound, rfl⟩ := Nat.exists_eq_add_of_lt enough
    subst atEnv onHandle
    cases decoded
    refine wp_iterate_succ.mpr ?_
    rw [readColsOnce, wp_bind]
    refine wp_mono_ok (wp_fetchRowIntoBuffers_endData held code) ?_
    rintro _ after ⟨rfl, readTo⟩
    exact ⟨rfl, cmd.outBuffers, described, readTo⟩
  | row code one rest inductionHypothesis =>
    obtain ⟨bound, rfl⟩ := Nat.exists_eq_add_of_lt enough
    subst atEnv onHandle
    cases decoded with
    | cons here later =>
      refine wp_iterate_succ.mpr (wp_mono_ok
        (wp_readColsOnce_row ph unlimited columnsOf held described quiet code one here) ?_)
      rintro _ after ⟨rfl, buffers, stored, readTo⟩
      have onHandle : ({ cmd with outBuffers := buffers } : Command).mCmd = cmd.mCmd := rfl
      have fewer := Nat.lt_of_succ_lt_succ (List.length_cons ▸ enough)
      refine wp_mono_ok (inductionHypothesis (by omega) (.inl rfl) (by omega) readTo.env onHandle
        readTo.commands stored (readTo.xsink.trans quiet) later) ?_
      rintro _ final ⟨rfl, buffers, described, readRest⟩
      refine ⟨?_, buffers, described, readTo.trans readRest⟩
      rw [if_neg (List.cons_ne_nil _ _), List.append_assoc, List.singleton_append]
      split
      · rename_i none
        rw [none]
      · rfl

end Fetching

/-! ### Rows and columns -/

section Agreement

theorem keys_columnsFrom (rows : List (List QoreValue)) (keys : List Text) (index : Nat) :
    Hash.keys (columnsFrom rows keys index) = keys := by
  induction keys generalizing index with
  | nil => rfl
  | cons key keys inductionHypothesis =>
    exact congrArg (key :: ·) (inductionHypothesis (index + 1))

/-- The list under the key of a column. -/
theorem getKeyValue_columnsFrom (rows : List (List QoreValue)) {keys : List Text}
    (distinct : keys.Nodup) {position : Nat} {key : Text} (at' : keys[position]? = some key)
    (index : Nat) : Hash.getKeyValue (columnsFrom rows keys index) key =
      .list (rows.map fun row => row.getD (index + position) .nothing) := by
  induction keys generalizing position index with
  | nil => exact absurd at' (by simp)
  | cons first keys inductionHypothesis =>
    obtain ⟨fresh, distinct⟩ := List.nodup_cons.mp distinct
    cases position with
    | zero =>
      cases Option.some_inj.mp at'
      simp [columnsFrom, Hash.getKeyValue]
    | succ position =>
      rw [List.getElem?_cons_succ] at at'
      have different : (key == first) = false := beq_false_of_ne fun same =>
        fresh (same ▸ List.mem_of_getElem? at')
      have later := inductionHypothesis distinct at' (index + 1)
      rw [Hash.getKeyValue, columnsFrom, List.lookup_cons, different]
      rw [Nat.add_right_comm, Nat.add_assoc] at later
      exact later

/-- The value under the key of a column in a row. -/
theorem getKeyValue_zip {keys : List Text} (distinct : keys.Nodup) {row : List QoreValue}
    {position : Nat} {key : Text} (at' : keys[position]? = some key) :
    Hash.getKeyValue (keys.zip row) key = row.getD position .nothing := by
  induction keys generalizing position row with
  | nil => exact absurd at' (by simp)
  | cons first keys inductionHypothesis =>
    obtain ⟨fresh, distinct⟩ := List.nodup_cons.mp distinct
    cases row with
    | nil => rfl
    | cons value row =>
      cases position with
      | zero =>
        cases Option.some_inj.mp at'
        simp [Hash.getKeyValue]
      | succ position =>
        rw [List.getElem?_cons_succ] at at'
        have different : (key == first) = false := beq_false_of_ne fun same =>
          fresh (same ▸ List.mem_of_getElem? at')
        have later : Hash.getKeyValue (keys.zip row) key = row.getD position .nothing :=
          inductionHypothesis distinct at'
        rw [Hash.getKeyValue, List.zip_cons_cons, List.lookup_cons, different]
        exact later

/-- A cell of a row that decodes. -/
theorem decodeCells_getElem {columns : List Datafmt} {cells : List Cell} {row : List QoreValue}
    (decoded : decodeCells cfg columns cells = some row) {position : Nat}
    (below : position < columns.length) : ∃ datafmt cell, columns[position]? = some datafmt ∧
      cells[position]? = some cell ∧
        decode cfg datafmt cell = .value (row.getD position .nothing) := by
  induction columns generalizing cells row position with
  | nil => exact absurd below (Nat.not_lt_zero _)
  | cons datafmt columns inductionHypothesis =>
    obtain ⟨cell, cells', value, row', rfl, rfl, isValue, rest⟩ := decodeCells_cons decoded
    cases position with
    | zero => exact ⟨datafmt, cell, rfl, rfl, isValue⟩
    | succ position => exact inductionHypothesis rest (Nat.lt_of_succ_lt_succ below)

/-- What it means that the rows of a result and its hash of columns agree: the same distinct keys
in the order of the columns, and under the key of a column one value for each row, which is the
decoded cell of that column, in the row and in the column. -/
structure Agree (cfg : Config σ) (columns : List Datafmt) (rows : List (List Cell))
    (keys : List Text) (rowHashes : List Hash) (columnHash : Hash) : Prop where
  length : rowHashes.length = rows.length
  rowKeys : ∀ row ∈ rowHashes, Hash.keys row = keys
  columnKeys : Hash.keys columnHash = keys
  values : ∀ (position : Nat) (key : Text), keys[position]? = some key → ∃ column,
    Hash.getKeyValue columnHash key = .list column ∧ column.length = rows.length ∧
      ∀ (number : Nat) (cells : List Cell) (row : Hash), rows[number]? = some cells →
      rowHashes[number]? = some row →
        ∃ datafmt cell value, columns[position]? = some datafmt ∧
          cells[position]? = some cell ∧ decode cfg datafmt cell = .value value ∧
          Hash.getKeyValue row key = value ∧ column[number]? = some value

theorem agree_of_decodesTo (ph : Option (List Text)) {columns : List Datafmt}
    {rows : List (List Cell)} {values : List (List QoreValue)}
    (decoded : DecodesTo cfg columns rows values) :
    Agree cfg columns rows (columnKeys ph columns)
      (values.map fun row => (columnKeys ph columns).zip row)
      (columnsFrom values (columnKeys ph columns) 0) where
  length := by rw [List.length_map, List.Forall₂.length_eq decoded]
  rowKeys := by
    intro row member
    obtain ⟨row, inValues, rfl⟩ := List.mem_map.mp member
    obtain ⟨number, below, rfl⟩ := List.getElem_of_mem inValues
    have here := decoded.get (decoded.length_eq ▸ below) below
    rw [Hash.keys, List.map_fst_zip]
    rw [columnKeys_length]
    exact Nat.le_of_eq (decodeCells_length here).2.symm
  columnKeys := keys_columnsFrom values (columnKeys ph columns) 0
  values := by
    intro position key at'
    have distinct := columnKeys_nodup ph columns
    refine ⟨_, getKeyValue_columnsFrom values distinct at' 0, ?_, ?_⟩
    · rw [List.length_map, List.Forall₂.length_eq decoded]
    · intro number cells row atCells atRow
      rw [Nat.zero_add, List.getElem?_map]
      obtain ⟨row, atValues, rfl⟩ := List.getElem?_map ▸ atRow |> Option.map_eq_some_iff.mp
      obtain ⟨belowCells, rfl⟩ := List.getElem?_eq_some_iff.mp atCells
      obtain ⟨belowRow, rfl⟩ := List.getElem?_eq_some_iff.mp atValues
      have below : position < columns.length := by
        rw [← columnKeys_length ph columns]
        exact (List.getElem?_eq_some_iff.mp at').1
      have here := decoded.get belowCells belowRow
      obtain ⟨datafmt, cell, atColumns, atCell, isValue⟩ := decodeCells_getElem here below
      refine ⟨datafmt, cell, _, atColumns, atCell, isValue, getKeyValue_zip distinct at', ?_⟩
      rw [atValues]
      rfl

/-- The columns are described, then a loop runs. -/
theorem wp_ensured {α : Type} {id : CommandId} {world ready : World σ} {body : Driver σ α}
    {none : α} (ensured : ensureColinfo cfg id world = (.ok 0, ready))
    {onOk : α → World σ → Prop} (holds : wp body onOk noThrow noHalt ready) :
    wp (do if (← ensureColinfo cfg id) ≠ 0 then pure none else body) onOk noThrow noHalt
      world := by
  rw [wp_bind, wp, ensured]
  exact holds

/-- Two integer columns of one name. -/
def sampleColumns : List Datafmt :=
  [⟨text "A", .int, .int, 0, 4, .unused, 1⟩, ⟨text "a", .int, .int, 0, 4, .unused, 1⟩]

/-- A row of these columns. -/
def sampleRow : List Cell := [⟨[1, 0, 0, 0], 4, 0⟩, ⟨[2, 0, 0, 0], 4, 0⟩]

/-- A command that has described these columns. -/
def sampleCommand : Command :=
  ⟨none, some 0, -1, .resRow, ⟨false, sampleColumns⟩, [newBuffer 4, newBuffer 4]⟩

/-- The state before the row is fetched. -/
def sampleWorld : World (List Reply) :=
  { World.opened [{ number := 1, cells := sampleRow }, { code := .endData }] with
    commands := Function.update (fun _ => none) 0 (some sampleCommand) }

end Agreement

end Command

end Sybase
