/-
This file defines a statement that reads a script as a machine of its own: the row
fetched ahead, the result announced last with the rows that are left, the columns
these rows are read with, and what is still to be announced. Columns that were
described for an earlier result stay described, but a fetch stores nothing in their
buffers. Reading a row fails where the columns or a value of it cannot be read, and
the machine has no next state then.
-/

import Mathlib
import SybaseDriver.Output
import SybaseDriver.Statement

namespace Sybase

open Program Command

/-- The rows announced with an announcement. -/
def Announcement.rowCount (announcement : Announcement) : Nat :=
  (announcement.fetchable?.map fun result => result.rows.length).getD 0

/-- Columns that were described, and the cells in their buffers. The buffers are those of the
current result where they were bound since it was announced. -/
structure Bindings where
  columns : List Datafmt
  cells : List Cell
  current : Bool

/-- The bindings of new buffers. -/
def Bindings.create (columns : List Datafmt) : Bindings :=
  ⟨columns, columns.map fun _ => ⟨[], 0, 0⟩, true⟩

/-- The bindings after another result was announced. -/
def Bindings.expire (bindings : Bindings) : Bindings := { bindings with current := false }

/-- The cells of a row over those that were in the buffers before. -/
def overlay : List Cell → List Cell → List Cell
  | _ :: cells, cell :: row => cell :: overlay cells row
  | cells, _ => cells

/-- The bindings after a row was fetched. -/
def Bindings.store (bindings : Bindings) (row : List Cell) : Bindings :=
  { bindings with cells := if bindings.current then overlay bindings.cells row else bindings.cells }

/-- The bindings that are known after an announcement. -/
def Announcement.bindingsAfter (bindings : Option Bindings) : Announcement → Option Bindings
  | .succeed => bindings
  | .done _ => none
  | _ => bindings.map Bindings.expire

/-- A statement that reads a script. -/
structure Reader where
  ahead : Option Hash
  kind : ResType
  bindings : Option Bindings
  current : Fetchable
  script : List Announcement

/-- The rows of hashes with the same keys, as a hash of columns. -/
def asColumns : List Hash → Hash
  | [] => []
  | first :: rest =>
    columnsFrom ((first :: rest).map fun row => row.map Prod.snd) (first.map Prod.fst) 0

namespace Reader

variable (cfg : Config Playing) (isMultiByte : Bool)

/-- What the rows of the current result are read with: the columns described last, or else those of
the result. -/
def bound (reader : Reader) : Bindings :=
  reader.bindings.getD (Bindings.create (reader.current.described cfg isMultiByte))

/-- A row as a hash, if its values can be read. -/
def readCells (columns : List Datafmt) (cells : List Cell) : Option Hash :=
  (decodeCells cfg columns cells).map fun values => (columnKeys none columns).zip values

/-! ### Calls -/

/-- The next result is announced where the last one was read. -/
def announce (reader : Reader) : Reader :=
  if reader.kind.waits then
    match reader.script.dropWhile fun announcement => !announcement.isOutput with
    | [] => { reader with kind := .resEnd, script := [] }
    | announcement :: rest => { reader with
        kind := announcement.res
        bindings := announcement.bindingsAfter reader.bindings
        current := announcement.fetchable?.getD reader.current
        script := rest }
  else reader

/-- `command::fetch_row`, whatever the result is. -/
def fetch (reader : Reader) : Option (Option Hash × Reader) :=
  let bound := reader.bound cfg isMultiByte
  if bound.columns = [] then none
  else match reader.current.rows with
    | [] => some (none, { reader with kind := .resNone, bindings := some bound })
    | row :: rows =>
      let stored := bound.store row
      (readCells cfg stored.columns stored.cells).map fun hash =>
        (some hash, { reader with
          bindings := some stored
          current := { reader.current with rows := rows } })

/-- `Statement::next`. -/
def next (reader : Reader) : Option (Bool × Reader) :=
  let announced := reader.announce
  if Statement.expectRow announced.kind ∧ announced.ahead.isNone then
    (announced.fetch cfg isMultiByte).map fun (row, after) =>
      (row.isSome, { after with ahead := row })
  else some (announced.ahead.isSome, announced)

/-- A number of passes of the loop of `Statement::fetch_rows`. -/
def passes : Nat → Reader → Option (List Hash × Reader)
  | 0, reader => some ([], reader)
  | count + 1, reader =>
    match { reader with ahead := none }.next cfg isMultiByte with
    | none => none
    | some (false, after) => some (reader.ahead.toList, after)
    | some (true, after) =>
      (after.passes count).map fun (rows, last) => (reader.ahead.toList ++ rows, last)

/-- The rows of the results that are left. -/
def rowsLeft (reader : Reader) : Nat :=
  reader.current.rows.length + (reader.script.map Announcement.rowCount).sum

/-- `Statement::fetch_rows`: one pass more than rows are asked for. -/
def fetchRows (rows : Int) (reader : Reader) : Option (List Hash × Reader) :=
  reader.passes cfg isMultiByte (if rows > 0 then rows.toNat + 1 else reader.rowsLeft + 1)

/-- A number of passes of the loop of `command::read_cols`. -/
def fetchMany : Nat → Reader → Option (List Hash × Reader)
  | 0, reader => some ([], reader)
  | count + 1, reader =>
    match reader.fetch cfg isMultiByte with
    | none => none
    | some (none, after) => some ([], after)
    | some (some row, after) =>
      (after.fetchMany count).map fun (rows, last) => (row :: rows, last)

/-- `Statement::fetch_columns`, with the rows as they are read. -/
def fetchColumns (rows : Int) (reader : Reader) : Option (List Hash × Reader) :=
  reader.fetchMany cfg isMultiByte
    (if rows > 0 then rows.toNat else reader.current.rows.length + 1)

/-! ### Announcing -/

section Announcing

variable {reader : Reader}

/-- A result that is not read yet stays the current one. -/
theorem announce_of_stays (stays : ¬reader.kind.waits) : reader.announce = reader := by
  rw [announce, if_neg stays]

theorem announce_end (waits : reader.kind.waits)
    (succeeds : ∀ earlier ∈ reader.script, earlier.isOutput = false) :
    reader.announce = { reader with kind := .resEnd, script := [] } := by
  rw [announce, if_pos waits, List.dropWhile_eq_nil_iff.mpr]
  exact fun earlier member => by rw [succeeds earlier member, Bool.not_false]

theorem announce_output {before rest : List Announcement} {announcement : Announcement}
    (waits : reader.kind.waits) (script : reader.script = before ++ announcement :: rest)
    (succeeds : ∀ earlier ∈ before, earlier.isOutput = false)
    (output : announcement.isOutput = true) :
    reader.announce = { reader with
      kind := announcement.res
      bindings := announcement.bindingsAfter reader.bindings
      current := announcement.fetchable?.getD reader.current
      script := rest } := by
  rw [announce, if_pos waits, script, List.dropWhile_append_of_pos
    (fun earlier member => by rw [succeeds earlier member, Bool.not_false]),
    List.dropWhile_cons_of_neg (by simp [output])]

end Announcing

/-! ### Less is left -/

/-- The bound of a loop exceeds what is left to read. -/
structure Fits (fuel : Nat) (reader : Reader) : Prop where
  script : reader.script.length < fuel
  rows : reader.rowsLeft + 1 < fuel

/-- Not more is left to read. -/
structure Shrinks (reader after : Reader) : Prop where
  script : after.script.length ≤ reader.script.length
  rows : after.rowsLeft ≤ reader.rowsLeft

namespace Shrinks

variable {fuel : Nat} {reader middle after : Reader}

theorem refl (reader : Reader) : Shrinks reader reader := ⟨le_rfl, le_rfl⟩

theorem trans (first : Shrinks reader middle) (second : Shrinks middle after) :
    Shrinks reader after :=
  ⟨second.script.trans first.script, second.rows.trans first.rows⟩

theorem fits (shrinks : Shrinks reader after) (fits : reader.Fits fuel) : after.Fits fuel :=
  ⟨Nat.lt_of_le_of_lt shrinks.script fits.script,
    Nat.lt_of_le_of_lt (Nat.succ_le_succ shrinks.rows) fits.rows⟩

end Shrinks

/-- An announcement leaves the row fetched ahead. -/
theorem ahead_announce (reader : Reader) : reader.announce.ahead = reader.ahead := by
  rw [announce]
  split
  · split <;> rfl
  · rfl

section Shrinking

variable {cfg : Config Playing} {isMultiByte : Bool} {reader after : Reader}

/-- A change that reads nothing. -/
theorem shrinks_of_same (current : after.current = reader.current)
    (script : after.script = reader.script) : reader.Shrinks after := by
  refine ⟨by rw [script], ?_⟩
  rw [rowsLeft, rowsLeft, current, script]

theorem shrinks_announce (reader : Reader) : reader.Shrinks reader.announce := by
  by_cases waits : reader.kind.waits
  · rcases exists_output reader.script with succeeds | ⟨before, announcement, rest, script,
      succeeds, output⟩
    · rw [announce_end waits succeeds]
      refine ⟨Nat.zero_le _, ?_⟩
      rw [rowsLeft, rowsLeft]
      exact Nat.add_le_add_left (Nat.zero_le _) _
    · rw [announce_output waits script succeeds output]
      refine ⟨?_, ?_⟩
      · rw [script, List.length_append, List.length_cons]
        exact Nat.le_trans (Nat.le_succ _) (Nat.le_add_left _ _)
      · rw [rowsLeft, rowsLeft, script, List.map_append, List.sum_append, List.map_cons,
          List.sum_cons, Announcement.rowCount]
        dsimp only
        cases announcement.fetchable? with
        | none => simp only [Option.getD_none, Option.map_none]; omega
        | some result => simp only [Option.getD_some, Option.map_some]; omega
  · rw [announce_of_stays waits]
    exact .refl reader

/-- Describing the columns before is no different. -/
theorem fetch_bound : Reader.fetch cfg isMultiByte { reader with
    bindings := some (reader.bound cfg isMultiByte) } = reader.fetch cfg isMultiByte := rfl

theorem fetchColumns_bound (rows : Int) : Reader.fetchColumns cfg isMultiByte rows { reader with
    bindings := some (reader.bound cfg isMultiByte) } = reader.fetchColumns cfg isMultiByte
      rows := by
  rw [fetchColumns, fetchColumns]
  dsimp only
  obtain ⟨count, same⟩ : ∃ count,
      (if rows > 0 then rows.toNat else reader.current.rows.length + 1) = count + 1 := by
    split
    · exact ⟨rows.toNat - 1, by omega⟩
    · exact ⟨_, rfl⟩
  rw [same, fetchMany, fetchMany, fetch_bound]

/-- Without columns nothing is fetched. -/
theorem fetchColumns_noColumns (none : (reader.bound cfg isMultiByte).columns = []) (rows : Int) :
    reader.fetchColumns cfg isMultiByte rows = Option.none := by
  have fails : reader.fetch cfg isMultiByte = Option.none := by
    rw [fetch]
    exact if_pos none
  rw [fetchColumns]
  split
  · obtain ⟨count, same⟩ : ∃ count, rows.toNat = count + 1 := ⟨rows.toNat - 1, by omega⟩
    rw [same, fetchMany, fails]
  · rw [fetchMany, fails]

/-- Fetching a row leaves the row fetched ahead. -/
theorem ahead_fetch {row : Option Hash}
    (fetched : reader.fetch cfg isMultiByte = some (row, after)) : after.ahead = reader.ahead := by
  rw [fetch] at fetched
  split at fetched
  · cases fetched
  · split at fetched
    · cases fetched
      rfl
    · obtain ⟨_, -, same⟩ := Option.map_eq_some_iff.mp fetched
      cases same
      rfl

/-- Fetching a row leaves the columns it was read with, and the result. -/
theorem bound_fetch {row : Option Hash}
    (fetched : reader.fetch cfg isMultiByte = some (row, after)) :
    ∃ bindings, after.bindings = some bindings ∧
      bindings.columns = (reader.bound cfg isMultiByte).columns := by
  rw [fetch] at fetched
  split at fetched
  · cases fetched
  · split at fetched
    · cases fetched
      exact ⟨_, rfl, rfl⟩
    · obtain ⟨_, -, same⟩ := Option.map_eq_some_iff.mp fetched
      cases same
      exact ⟨_, rfl, rfl⟩

/-- The rows that are left after a fetch. -/
theorem rows_fetch {row : Option Hash}
    (fetched : reader.fetch cfg isMultiByte = some (row, after)) :
    row.isSome = !reader.current.rows.isEmpty ∧ after.current.rows = reader.current.rows.tail := by
  rw [fetch] at fetched
  split at fetched
  · cases fetched
  · split at fetched
    · rename_i rows
      cases fetched
      simp [rows]
    · rename_i rows
      obtain ⟨_, -, same⟩ := Option.map_eq_some_iff.mp fetched
      cases same
      simp [rows]

/-- The keys of a row are those of the columns it was read with. -/
theorem keys_fetch {row : Hash}
    (fetched : reader.fetch cfg isMultiByte = some (some row, after)) :
    row.map Prod.fst = columnKeys none (reader.bound cfg isMultiByte).columns := by
  rw [fetch] at fetched
  split at fetched
  · cases fetched
  · split at fetched
    · cases fetched
    · obtain ⟨hash, isRead, same⟩ := Option.map_eq_some_iff.mp fetched
      cases same
      obtain ⟨values, decoded, rfl⟩ := Option.map_eq_some_iff.mp isRead
      have length := (columnKeys_length none _).trans (decodeCells_length decoded).2.symm
      exact List.map_fst_zip (by omega)

theorem keys_fetchMany {count : Nat} {rows : List Hash}
    (fetched : reader.fetchMany cfg isMultiByte count = some (rows, after)) :
    ∀ row ∈ rows, row.map Prod.fst = columnKeys none (reader.bound cfg isMultiByte).columns := by
  induction count generalizing reader rows with
  | zero =>
    cases fetched
    exact fun _ member => absurd member List.not_mem_nil
  | succ count inductionHypothesis =>
    rw [fetchMany] at fetched
    split at fetched
    · cases fetched
    · cases fetched
      exact fun _ member => absurd member List.not_mem_nil
    · rename_i first middle isFirst
      obtain ⟨⟨rest, last⟩, isRest, same⟩ := Option.map_eq_some_iff.mp fetched
      cases same
      obtain ⟨bindings, known, columns⟩ := bound_fetch isFirst
      have same : (middle.bound cfg isMultiByte).columns =
          (reader.bound cfg isMultiByte).columns := by
        rw [bound, known]
        exact columns
      intro row member
      rcases List.mem_cons.mp member with rfl | later
      · exact keys_fetch isFirst
      · exact same ▸ inductionHypothesis isRest row later

/-- Fetching a row leaves one row less. -/
theorem shrinks_fetch {row : Option Hash}
    (fetched : reader.fetch cfg isMultiByte = some (row, after)) :
    reader.Shrinks after ∧ (row.isSome → after.rowsLeft < reader.rowsLeft) := by
  rw [fetch] at fetched
  split at fetched
  · cases fetched
  · split at fetched
    · cases fetched
      exact ⟨shrinks_of_same rfl rfl, nofun⟩
    · rename_i first rows same
      obtain ⟨hash, -, same'⟩ := Option.map_eq_some_iff.mp fetched
      cases same'
      have fewer : reader.rowsLeft = rows.length + 1 +
          (reader.script.map Announcement.rowCount).sum := by
        rw [rowsLeft, same, List.length_cons]
      refine ⟨⟨le_rfl, ?_⟩, fun _ => ?_⟩ <;> rw [fewer, rowsLeft] <;> dsimp only <;> omega

/-- Fetching many rows leaves the row fetched ahead, and not more rows. -/
theorem fetchMany_frame {count : Nat} {rows : List Hash}
    (fetched : reader.fetchMany cfg isMultiByte count = some (rows, after)) :
    after.ahead = reader.ahead ∧ reader.Shrinks after := by
  induction count generalizing reader rows with
  | zero =>
    cases fetched
    exact ⟨rfl, .refl _⟩
  | succ count inductionHypothesis =>
    rw [fetchMany] at fetched
    split at fetched
    · cases fetched
    · rename_i isFirst
      cases fetched
      exact ⟨ahead_fetch isFirst, (shrinks_fetch isFirst).1⟩
    · rename_i first middle isFirst
      obtain ⟨⟨rest, last⟩, isRest, same⟩ := Option.map_eq_some_iff.mp fetched
      cases same
      obtain ⟨ahead, shrinks⟩ := inductionHypothesis isRest
      exact ⟨ahead.trans (ahead_fetch isFirst), (shrinks_fetch isFirst).1.trans shrinks⟩

theorem shrinks_next {more : Bool} (moved : reader.next cfg isMultiByte = some (more, after)) :
    reader.Shrinks after ∧
    (reader.ahead = none → more = true → after.rowsLeft < reader.rowsLeft) := by
  have announced := shrinks_announce reader
  rw [next] at moved
  split at moved
  · obtain ⟨⟨row, fetched⟩, isFetched, same⟩ := Option.map_eq_some_iff.mp moved
    cases same
    obtain ⟨shrinks, fewer⟩ := shrinks_fetch isFetched
    refine ⟨(announced.trans shrinks).trans (shrinks_of_same rfl rfl), fun _ more => ?_⟩
    exact Nat.lt_of_lt_of_le (fewer more) announced.rows
  · cases moved
    refine ⟨announced, fun none more => absurd more ?_⟩
    rw [ahead_announce, none]
    decide

end Shrinking

end Reader

end Sybase
