/-
This file proves when a statement gets through its script by calls of `next` alone. What
is still to be read of a script, and in which columns, is computed from the script: each
result is read in the columns described first since the last `CS_CMD_DONE`, and where these
are those of an earlier result, its rows are not stored in their buffers. Every call of
`next` makes the rest of the script less, until a return status is announced: its row is
not fetched by `next`, and no further result is asked for before it is.
-/

import SybaseDriver.Blocks

namespace Sybase

open Program Command Connection

/-! ### What a script gives -/

section Scripts

variable (cfg : Config Playing) (isMultiByte : Bool)

namespace Reader

/-- Rows as they are read into the buffers one after the other, if all of them can be read. -/
def readRows : Bindings → List (List Cell) → Option (List Hash)
  | _, [] => some []
  | bindings, row :: rows =>
    (readCells cfg (bindings.store row).columns (bindings.store row).cells).bind fun hash =>
      (readRows (bindings.store row) rows).map (hash :: ·)

/-- What fetches make of the rows of the current result, in whatever columns they are read. -/
def toRead (reader : Reader) : Option (List Hash) :=
  if (reader.bound cfg isMultiByte).columns = [] then none
  else readRows cfg (reader.bound cfg isMultiByte) reader.current.rows

end Reader

/-- The buffers after rows were fetched into them. -/
def Bindings.storeAll (bindings : Bindings) (rows : List (List Cell)) : Bindings :=
  rows.foldl Bindings.store bindings

/-- What the rows of a result are read with, where columns may have been described before. -/
def Fetchable.boundTo (result : Fetchable) (known : Option Bindings) : Bindings :=
  (known.map Bindings.expire).getD (Bindings.create (result.described cfg isMultiByte))

/-- The rows of a result as its own columns give them. -/
def Fetchable.ownRows (result : Fetchable) : List (Option Hash) :=
  result.rows.map (Reader.readCells cfg (result.described cfg isMultiByte))

/-- The results of a script whose rows a statement is to deliver: those of queries and of output
parameters. -/
def Announcement.delivered? : Announcement → Option Fetchable
  | .row result | .param result => some result
  | _ => none

/-- The rows a statement is to deliver of a script. -/
def ownRows (script : List Announcement) : List (Option Hash) :=
  (script.filterMap Announcement.delivered?).flatMap (Fetchable.ownRows cfg isMultiByte)

/-- The rows that `next` reads of a script, if all of them can be read and there is no return
status. -/
def readScript : Option Bindings → List Announcement → Option (List Hash)
  | _, [] => some []
  | known, .succeed :: rest => readScript known rest
  | _, .done _ :: rest => readScript none rest
  | _, .status _ :: _ => none
  | known, .row result :: rest | known, .param result :: rest =>
    let bound := result.boundTo cfg isMultiByte known
    if bound.columns = [] then none
    else (Reader.readRows cfg bound result.rows).bind fun rows =>
      (readScript (some (bound.storeAll result.rows)) rest).map (rows ++ ·)

/-- The rows of a result, read in columns that may be those of another, are what its own columns
give. -/
def ReadsAsOwn (bound : Bindings) (result : Fetchable) : Prop :=
  bound.columns ≠ [] ∧ ∃ rows, Reader.readRows cfg bound result.rows = some rows ∧
    rows.map some = result.ownRows cfg isMultiByte

/-- A script without a return status, in which every result is read as its own columns say, though
it is read in those described first since the last `CS_CMD_DONE`. -/
def PassesThrough : Option Bindings → List Announcement → Prop
  | _, [] => True
  | known, .succeed :: rest => PassesThrough known rest
  | _, .done _ :: rest => PassesThrough none rest
  | _, .status _ :: _ => False
  | known, .row result :: rest | known, .param result :: rest =>
    let bound := result.boundTo cfg isMultiByte known
    ReadsAsOwn cfg isMultiByte bound result ∧
      PassesThrough (some (bound.storeAll result.rows)) rest

end Scripts

section Scripts

variable {cfg : Config Playing} {isMultiByte : Bool}

theorem Reader.length_readRows {bindings : Bindings} {cells : List (List Cell)} {rows : List Hash}
    (read : Reader.readRows cfg bindings cells = some rows) : rows.length = cells.length := by
  induction cells generalizing bindings rows with
  | nil =>
    cases read
    rfl
  | cons row cells inductionHypothesis =>
    obtain ⟨hash, -, others⟩ := Option.bind_eq_some_iff.mp read
    obtain ⟨rest, isRest, rfl⟩ := Option.map_eq_some_iff.mp others
    rw [List.length_cons, List.length_cons, inductionHypothesis isRest]

/-- As many rows are read of a script as it is to deliver. -/
theorem length_readScript {known : Option Bindings} {script : List Announcement} {rows : List Hash}
    (read : readScript cfg isMultiByte known script = some rows) :
    rows.length = (ownRows cfg isMultiByte script).length := by
  have fetchable : ∀ {known : Option Bindings} {result : Fetchable} {rest : List Announcement}
      {rows : List Hash}, (∀ {known : Option Bindings} {rows : List Hash},
        readScript cfg isMultiByte known rest = some rows →
          rows.length = (ownRows cfg isMultiByte rest).length) →
      readScript cfg isMultiByte known (.row result :: rest) = some rows →
        rows.length = (result.ownRows cfg isMultiByte ++ ownRows cfg isMultiByte rest).length := by
    intro known result rest rows lengthRest read
    rw [readScript] at read
    split at read
    · cases read
    · obtain ⟨first, readRows, readOthers⟩ := Option.bind_eq_some_iff.mp read
      obtain ⟨others, readRest, rfl⟩ := Option.map_eq_some_iff.mp readOthers
      rw [List.length_append, List.length_append, lengthRest readRest,
        Reader.length_readRows readRows, Fetchable.ownRows, List.length_map]
  induction script generalizing known rows with
  | nil =>
    cases read
    rfl
  | cons announcement script inductionHypothesis =>
    cases announcement with
    | succeed => exact inductionHypothesis read
    | done count => exact inductionHypothesis read
    | status result => cases read
    | row result => exact fetchable inductionHypothesis read
    | param result => exact fetchable inductionHypothesis read

/-- A script is passed through if and only if what is read of it is what it is to deliver. -/
theorem passesThrough_iff (known : Option Bindings) (script : List Announcement) :
    PassesThrough cfg isMultiByte known script ↔
      ∃ rows, readScript cfg isMultiByte known script = some rows ∧
        rows.map some = ownRows cfg isMultiByte script := by
  have fetchable : ∀ {known : Option Bindings} {result : Fetchable} {rest : List Announcement},
      (∀ known, PassesThrough cfg isMultiByte known rest ↔
        ∃ rows, readScript cfg isMultiByte known rest = some rows ∧
          rows.map some = ownRows cfg isMultiByte rest) →
      (PassesThrough cfg isMultiByte known (.row result :: rest) ↔
        ∃ rows, readScript cfg isMultiByte known (.row result :: rest) = some rows ∧
          rows.map some = ownRows cfg isMultiByte (.row result :: rest)) := by
    intro known result rest restIff
    have own : ownRows cfg isMultiByte (.row result :: rest) =
        result.ownRows cfg isMultiByte ++ ownRows cfg isMultiByte rest := List.flatMap_cons
    rw [PassesThrough, readScript, own]
    refine ⟨?_, ?_⟩
    · rintro ⟨⟨columns, rows, read, same⟩, passes⟩
      obtain ⟨others, readRest, sameRest⟩ := (restIff _).mp passes
      refine ⟨rows ++ others, ?_, by rw [List.map_append, same, sameRest]⟩
      rw [if_neg columns, read, Option.bind_some, readRest]
      rfl
    · rintro ⟨all, read, same⟩
      split at read
      · cases read
      · rename_i columns
        obtain ⟨rows, readRows, readOthers⟩ := Option.bind_eq_some_iff.mp read
        obtain ⟨others, readRest, rfl⟩ := Option.map_eq_some_iff.mp readOthers
        rw [List.map_append] at same
        obtain ⟨sameRows, sameRest⟩ := List.append_inj same (by
          rw [List.length_map, Reader.length_readRows readRows, Fetchable.ownRows, List.length_map])
        exact ⟨⟨columns, rows, readRows, sameRows⟩, (restIff _).mpr ⟨others, readRest, sameRest⟩⟩
  induction script generalizing known with
  | nil => exact ⟨fun _ => ⟨[], rfl, rfl⟩, fun _ => trivial⟩
  | cons announcement script inductionHypothesis =>
    cases announcement with
    | succeed => exact inductionHypothesis known
    | done count => exact inductionHypothesis none
    | status result => exact ⟨False.elim, fun ⟨_, absent, _⟩ => nomatch absent⟩
    | row result => exact fetchable inductionHypothesis
    | param result => exact fetchable inductionHypothesis

/-- A result is read as its own columns say where these are the columns that are bound. -/
theorem Fetchable.WellFormed.readsAsOwn {result : Fetchable} {bound : Bindings}
    (wellFormed : result.WellFormed cfg isMultiByte)
    (columns : bound.columns = result.described cfg isMultiByte) (current : bound.current = true)
    (length : bound.cells.length = bound.columns.length) :
    ReadsAsOwn cfg isMultiByte bound result := by
  refine ⟨by rw [columns]; exact mt List.map_eq_nil_iff.mp wellFormed.columns, ?_⟩
  rw [Fetchable.ownRows]
  have rows := wellFormed.rows
  generalize result.rows = cells at rows
  induction cells generalizing bound with
  | nil => exact ⟨[], rfl, rfl⟩
  | cons row cells inductionHypothesis =>
    obtain ⟨values, decoded⟩ := Option.isSome_iff_exists.mp (rows row List.mem_cons_self)
    have same : overlay bound.cells row = row :=
      Reader.overlay_of_length (by rw [length, columns, (decodeCells_length decoded).1])
    have stored : bound.store row = { bound with cells := row } := by
      rw [Bindings.store, if_pos current, same]
    obtain ⟨hashes, read, own⟩ := @inductionHypothesis (bound.store row) columns current
      (by rw [stored, columns, (decodeCells_length decoded).1])
      fun other member => rows other (.tail _ member)
    have readsRow : Reader.readCells cfg (bound.store row).columns (bound.store row).cells =
        Reader.readCells cfg (result.described cfg isMultiByte) row := by
      rw [stored, columns]
    obtain ⟨hash, isRead⟩ :
        ∃ hash, Reader.readCells cfg (result.described cfg isMultiByte) row = some hash :=
      ⟨_, by rw [Reader.readCells, decoded]; rfl⟩
    refine ⟨hash :: hashes, ?_, ?_⟩
    · rw [Reader.readRows, readsRow, isRead, Option.bind_some, read]
      rfl
    · rw [List.map_cons, List.map_cons, own, isRead]

/-- Successes in between are passed over. -/
theorem readScript_append {before rest : List Announcement} (known : Option Bindings)
    (succeeds : ∀ earlier ∈ before, earlier.isOutput = false) :
    readScript cfg isMultiByte known (before ++ rest) = readScript cfg isMultiByte known rest := by
  induction before with
  | nil => rfl
  | cons announcement before inductionHypothesis =>
    have isSucceed := succeeds announcement List.mem_cons_self
    cases announcement with
    | succeed => exact inductionHypothesis fun earlier member => succeeds earlier (.tail _ member)
    | _ => cases isSucceed

end Scripts

/-! ### Polling -/

namespace Reader

variable (cfg : Config Playing) (isMultiByte : Bool)

/-- The rows that calls of `next` will read. -/
def future (reader : Reader) : Option (List Hash) :=
  if reader.kind = .resEnd then some []
  else if reader.kind.waits then readScript cfg isMultiByte reader.bindings reader.script
  else if Statement.expectRow reader.kind then
    (reader.toRead cfg isMultiByte).bind fun rows =>
      (readScript cfg isMultiByte
        (some ((reader.bound cfg isMultiByte).storeAll reader.current.rows)) reader.script).map
        (rows ++ ·)
  else none

/-- A number of calls of `next`, each with a call of `fetch_row` where it found a row. -/
def poll : Nat → Reader → Option (List Hash × Reader)
  | 0, reader => some ([], reader)
  | count + 1, reader =>
    match reader.next cfg isMultiByte with
    | none => none
    | some (false, after) => after.poll count
    | some (true, after) =>
      (Reader.poll count { after with ahead := none }).map fun (rows, last) =>
        (after.ahead.toList ++ rows, last)

section Polling

variable {cfg : Config Playing} {isMultiByte : Bool} {reader after : Reader} {rows : List Hash}

/-- Fetching reads the first row that is to be read. -/
theorem fetch_of_toRead (toRead : reader.toRead cfg isMultiByte = some rows) :
    ∃ after, reader.fetch cfg isMultiByte = some (rows.head?, after) ∧
      after.script = reader.script ∧ (rows = [] → after.kind = .resNone) ∧
      (rows ≠ [] → after.kind = reader.kind) := by
  rw [Reader.toRead] at toRead
  split at toRead
  · cases toRead
  · rename_i nonempty
    rw [fetch]
    dsimp only
    rw [if_neg nonempty]
    cases left : reader.current.rows with
    | nil =>
      rw [left] at toRead
      cases toRead
      exact ⟨_, rfl, rfl, fun _ => rfl, fun absent => absurd rfl absent⟩
    | cons row rest =>
      rw [left, readRows, Option.bind_eq_some_iff] at toRead
      obtain ⟨hash, read, others⟩ := toRead
      obtain ⟨tail, isTail, rfl⟩ := Option.map_eq_some_iff.mp others
      dsimp only
      rw [read]
      exact ⟨_, rfl, rfl, by simp, fun _ => rfl⟩

/-- An announcement takes nothing away of what will be read. -/
theorem future_announce : reader.announce.future cfg isMultiByte = reader.future cfg
    isMultiByte := by
  by_cases waits : reader.kind.waits
  · have notEnd : reader.kind ≠ .resEnd := by
      intro kind
      rw [kind] at waits
      revert waits
      decide
    rw [future, future, if_neg notEnd, if_pos waits]
    rcases exists_output reader.script with succeeds | ⟨before, announcement, rest, script,
      succeeds, output⟩
    · rw [announce_end waits succeeds, if_pos rfl, ← List.append_nil reader.script,
        readScript_append _ succeeds]
      rfl
    · rw [announce_output waits script succeeds output, script, readScript_append _ succeeds]
      have fetchable : ∀ {bound : Bindings} {cells : List (List Cell)}
          {others : List Hash → Option (List Hash)},
          (if bound.columns = [] then none else readRows cfg bound cells).bind others =
            if bound.columns = [] then none else (readRows cfg bound cells).bind others := by
        intro bound cells others
        split <;> rfl
      cases announcement with
      | succeed => cases output
      | done count => rfl
      | status result => rfl
      | row result => exact fetchable
      | param result => exact fetchable
  · rw [announce_of_stays waits]

/-- What is read by a fetch is the first of what was to be read. -/
theorem future_fetch {row : Option Hash} (expected : Statement.expectRow reader.kind = true)
    (fetched : reader.fetch cfg isMultiByte = some (row, after)) :
    reader.future cfg isMultiByte =
      (after.future cfg isMultiByte).map (row.toList ++ ·) := by
  have notEnd : reader.kind ≠ .resEnd := fun kind => by rw [kind] at expected; cases expected
  have stays : ¬reader.kind.waits := fun waits => by
    rw [not_expectRow_of_waits waits] at expected
    cases expected
  have columns := columns_of_fetch fetched
  rw [future, if_neg notEnd, if_neg stays, if_pos expected, toRead, if_neg columns]
  rw [fetch] at fetched
  dsimp only at fetched
  rw [if_neg columns] at fetched
  cases left : reader.current.rows with
  | nil =>
    rw [left] at fetched
    cases fetched
    rfl
  | cons cells rest =>
    rw [left] at fetched
    obtain ⟨hash, read, same⟩ := Option.map_eq_some_iff.mp fetched
    cases same
    have later : Reader.future cfg isMultiByte { reader with
        bindings := some ((reader.bound cfg isMultiByte).store cells)
        current := { reader.current with rows := rest } } =
        (readRows cfg ((reader.bound cfg isMultiByte).store cells) rest).bind fun rows =>
          (readScript cfg isMultiByte
            (some (((reader.bound cfg isMultiByte).store cells).storeAll rest)) reader.script).map
            (rows ++ ·) := by
      rw [future, if_neg notEnd, if_neg stays, if_pos expected, toRead]
      exact congrArg (Option.bind · _) (if_neg columns)
    rw [later, readRows, read, Option.bind_some]
    cases readRows cfg ((reader.bound cfg isMultiByte).store cells) rest with
    | none => rfl
    | some rows =>
      show (readScript cfg isMultiByte _ reader.script).map _ = _
      rw [Option.bind_some, Option.map_map]
      rfl

/-- What `next` reads is the first of what was to be read. -/
theorem future_next {more : Bool} (none : reader.ahead = none)
    (moved : reader.next cfg isMultiByte = some (more, after)) :
    reader.future cfg isMultiByte =
      (after.future cfg isMultiByte).map (after.ahead.toList ++ ·) := by
  rw [← future_announce]
  rw [next] at moved
  split at moved
  · rename_i expects
    obtain ⟨⟨row, fetched⟩, isFetched, same⟩ := Option.map_eq_some_iff.mp moved
    cases same
    have read := future_fetch expects.1 isFetched
    exact read
  · cases moved
    rw [ahead_announce, none]
    exact Option.map_id'.symm

/-- Where polling ends, it has delivered all that was to be read. -/
theorem future_poll {count : Nat} (none : reader.ahead = none)
    (polled : reader.poll cfg isMultiByte count = some (rows, after))
    (ends : after.kind = .resEnd) :
    reader.future cfg isMultiByte = some rows := by
  induction count generalizing reader rows with
  | zero =>
    cases polled
    rw [future, if_pos ends]
  | succ count inductionHypothesis =>
    rw [poll] at polled
    split at polled
    · cases polled
    · rename_i middle moved
      have isNone : middle.ahead = Option.none := by
        simpa using (ahead_next moved).symm
      rw [future_next none moved, inductionHypothesis isNone polled, isNone]
      rfl
    · rename_i middle moved
      obtain ⟨⟨rest, last⟩, isRest, same⟩ := Option.map_eq_some_iff.mp polled
      cases same
      have later : Reader.future cfg isMultiByte { middle with ahead := Option.none } = some rest :=
        inductionHypothesis rfl isRest
      rw [future_next none moved]
      exact congrArg (Option.map _) later

/-! ### The rest of a script becomes less -/

end Polling

/-- The calls of `next` that a result takes. -/
def cost : Announcement → Nat
  | .succeed => 0
  | .done _ | .status _ => 1
  | .row result | .param result => result.rows.length + 1

/-- The calls of `next` that are needed to get through what is left. -/
def need (reader : Reader) : Nat :=
  if reader.kind = .resEnd then 0
  else (if Statement.expectRow reader.kind then reader.current.rows.length + 1 else 0) +
    (reader.script.map cost).sum + 1

section Polling

variable {cfg : Config Playing} {isMultiByte : Bool} {reader after : Reader} {rows : List Hash}

theorem sum_cost_succeeds {before : List Announcement}
    (succeeds : ∀ earlier ∈ before, earlier.isOutput = false) : (before.map cost).sum = 0 := by
  rw [List.sum_eq_zero_iff_forall_eq_nat]
  intro number member
  obtain ⟨announcement, inBefore, rfl⟩ := List.mem_map.mp member
  have isSucceed := succeeds announcement inBefore
  cases announcement <;> first | rfl | cases isSucceed

/-- A script takes at most a call for each row, and one for each result. -/
theorem sum_cost_le (script : List Announcement) :
    (script.map cost).sum ≤ (script.map Announcement.rowCount).sum + script.length := by
  induction script with
  | nil => exact Nat.zero_le _
  | cons announcement script inductionHypothesis =>
    have one : cost announcement ≤ announcement.rowCount + 1 := by
      cases announcement <;> simp [cost, Announcement.rowCount, Announcement.fetchable?]
    simp only [List.map_cons, List.sum_cons, List.length_cons]
    omega

/-- An announcement that is not one of rows takes a call of its own. -/
theorem need_announce (reader : Reader) :
    reader.announce.need ≤ reader.need ∧ (reader.kind.waits →
      Statement.expectRow reader.announce.kind = false → reader.announce.need < reader.need) := by
  by_cases waits : reader.kind.waits
  · have before : reader.need = (reader.script.map cost).sum + 1 := by
      have notEnd : reader.kind ≠ .resEnd := by
        intro kind
        rw [kind] at waits
        revert waits
        decide
      rw [need, if_neg notEnd, not_expectRow_of_waits waits, if_neg Bool.false_ne_true,
        Nat.zero_add]
    rw [before]
    rcases exists_output reader.script with succeeds | ⟨before, announcement, rest, script,
      succeeds, output⟩
    · rw [announce_end waits succeeds]
      exact ⟨Nat.zero_le _, fun _ _ => Nat.succ_pos _⟩
    · rw [announce_output waits script succeeds output, script, List.map_append, List.sum_append,
        sum_cost_succeeds succeeds, List.map_cons, List.sum_cons]
      cases announcement with
      | succeed => cases output
      | done count => exact ⟨by simp [need, Announcement.res, Statement.expectRow],
          fun _ _ => by simp [need, Announcement.res, Statement.expectRow, cost]⟩
      | status result => exact ⟨by simp [need, Announcement.res, Statement.expectRow],
          fun _ _ => by simp [need, Announcement.res, Statement.expectRow, cost]⟩
      | row result => exact ⟨by simp [need, Announcement.res, Statement.expectRow, cost,
          Announcement.fetchable?], fun _ absent => by cases absent⟩
      | param result => exact ⟨by simp [need, Announcement.res, Statement.expectRow, cost,
          Announcement.fetchable?], fun _ absent => by cases absent⟩
  · rw [announce_of_stays waits]
    exact ⟨le_rfl, fun isWaiting => absurd isWaiting waits⟩

/-- Every call of `next` that finds something left makes it less. -/
theorem need_next (none : reader.ahead = none) (left : reader.future cfg isMultiByte = some rows)
    (goesOn : reader.kind ≠ .resEnd) :
    ∃ more after, reader.next cfg isMultiByte = some (more, after) ∧ after.need < reader.need := by
  obtain ⟨less, strictly⟩ := need_announce reader
  rw [← future_announce] at left
  rw [next]
  split
  · rename_i expects
    have notEnd : reader.announce.kind ≠ .resEnd := by
      intro kind
      rw [kind] at expects
      cases expects.1
    have stays : ¬reader.announce.kind.waits := by
      intro waits
      rw [not_expectRow_of_waits waits] at expects
      cases expects.1
    rw [future, if_neg notEnd, if_neg stays, if_pos expects.1] at left
    obtain ⟨toRead, isToRead, -⟩ := Option.bind_eq_some_iff.mp left
    obtain ⟨middle, fetched, script, atEnd, atRow⟩ := fetch_of_toRead isToRead
    obtain ⟨isRow, current⟩ := rows_fetch fetched
    rw [fetched]
    refine ⟨_, _, rfl, Nat.lt_of_lt_of_le ?_ less⟩
    have before : reader.announce.need = reader.announce.current.rows.length + 1 +
        (reader.announce.script.map cost).sum + 1 := by
      rw [need, if_neg notEnd, if_pos expects.1]
    rw [before]
    cases toRead with
    | nil =>
      have kind := atEnd rfl
      simp only [need, kind, script, Statement.expectRow]
      simp
    | cons row rest =>
      have kind := atRow (List.cons_ne_nil _ _)
      have nonempty : 0 < reader.announce.current.rows.length := by
        rw [List.length_pos_iff]
        intro none
        rw [none] at isRow
        cases isRow
      simp only [need, kind, script, current, List.length_tail, if_neg notEnd, if_pos expects.1]
      omega
  · rename_i skips
    refine ⟨_, _, rfl, ?_⟩
    have isNone : reader.announce.ahead.isNone = true := by rw [ahead_announce, none]; rfl
    have unexpected : Statement.expectRow reader.announce.kind = false :=
      Bool.eq_false_iff.mpr fun expected => skips ⟨expected, isNone⟩
    refine strictly ?_ unexpected
    by_contra stays
    rw [announce_of_stays stays] at left unexpected
    rw [future, if_neg goesOn, if_neg stays, unexpected] at left
    cases left

/-- At the end of the results, more calls of `next` find nothing. -/
theorem poll_end (none : reader.ahead = none) (ends : reader.kind = .resEnd) (count : Nat) :
    reader.poll cfg isMultiByte count = some ([], reader) := by
  have stays : reader.announce = reader := announce_of_stays fun waits => by
    rw [ends] at waits
    revert waits
    decide
  have moved : reader.next cfg isMultiByte = some (false, reader) := by
    rw [next, stays, ends, none]
    rfl
  induction count with
  | zero => rfl
  | succ count inductionHypothesis =>
    rw [poll, moved]
    exact inductionHypothesis

/-- Calls of `next` get through all that is to be read, and further ones find nothing. -/
theorem poll_of_future {bound : Nat} (none : reader.ahead = none)
    (left : reader.future cfg isMultiByte = some rows) (enough : reader.need ≤ bound) :
    ∃ few last, few ≤ bound ∧ last.kind = .resEnd ∧
      ∀ count ≥ few, reader.poll cfg isMultiByte count = some (rows, last) := by
  induction bound generalizing reader rows with
  | zero =>
    have ends : reader.kind = .resEnd := by
      by_contra goesOn
      rw [need, if_neg goesOn] at enough
      omega
    rw [future, if_pos ends] at left
    cases left
    exact ⟨0, reader, le_rfl, ends, fun count _ => poll_end none ends count⟩
  | succ bound inductionHypothesis =>
    by_cases ends : reader.kind = .resEnd
    · rw [future, if_pos ends] at left
      cases left
      exact ⟨0, reader, Nat.zero_le _, ends, fun count _ => poll_end none ends count⟩
    · obtain ⟨more, middle, moved, less⟩ := need_next none left ends
      have read := future_next none moved
      rw [left] at read
      obtain ⟨rest, isRest, rfl⟩ := Option.map_eq_some_iff.mp read.symm
      obtain ⟨few, last, fewer, atEnd, polls⟩ :=
        @inductionHypothesis { middle with ahead := Option.none } rest rfl isRest
          (show middle.need ≤ bound by omega)
      refine ⟨few + 1, last, Nat.succ_le_succ fewer, atEnd, fun count enough => ?_⟩
      obtain ⟨count, rfl⟩ : ∃ count', count = count' + 1 := ⟨count - 1, by omega⟩
      have polled := polls count (Nat.le_of_succ_le_succ enough)
      rw [poll, moved]
      have isSome := ahead_next moved
      cases more with
      | true =>
        dsimp only
        rw [polled]
        rfl
      | false =>
        have isNone : middle.ahead = Option.none := by simpa using isSome.symm
        have same : ({ middle with ahead := Option.none } : Reader) = middle := by
          rw [← isNone]
        rw [same] at polled
        rw [isNone, Option.toList_none, List.nil_append]
        exact polled

/-- A row that was fetched ahead before is delivered before all that is to be read. -/
theorem future_poll_buffered {row : Hash} {count : Nat} (buffered : reader.ahead = some row)
    (polled : reader.poll cfg isMultiByte (count + 1) = some (rows, after))
    (ends : after.kind = .resEnd) :
    ∃ rest, reader.future cfg isMultiByte = some rest ∧ rows = row :: rest := by
  have stillAhead : reader.announce.ahead = some row := (ahead_announce reader).trans buffered
  have moved : reader.next cfg isMultiByte = some (true, reader.announce) := by
    rw [next, if_neg (by simp [stillAhead]), stillAhead]
    rfl
  rw [poll, moved] at polled
  obtain ⟨⟨rest, last⟩, isRest, same⟩ := Option.map_eq_some_iff.mp polled
  cases same
  have later : Reader.future cfg isMultiByte { reader.announce with ahead := none } = some rest :=
    future_poll rfl isRest ends
  exact ⟨rest, future_announce.symm.trans later, by rw [stillAhead]; rfl⟩

end Polling

end Reader

/-! ### Polling a statement -/

section Calls

variable (cfg : Config Playing) (statement : StatementId)

/-- A call of `next`, with a call of `fetch_row` after a true. -/
def pollOnce : Driver Playing (List Hash) := do
  if ← DBModuleWrap.next cfg statement then do
    let row ← DBModuleWrap.fetchRow cfg statement
    pure row.toList
  else pure []

/-- The rows that a number of such calls deliver. -/
def poll : Nat → Driver Playing (List Hash)
  | 0 => pure []
  | count + 1 => do
    let first ← pollOnce cfg statement
    let rest ← poll count
    pure (first ++ rest)

/-- After a number of calls of `next` that the rows and results of a script bound, and after any
number of calls more, the command has reached the end of its results, and each row of the script was
delivered once and in order. -/
def Progresses (script : List Announcement) (executed : World Playing) : Prop :=
  ∃ few ≤ (script.map Announcement.rowCount).sum + script.length + 1, ∀ count ≥ few,
    ∃ delivered after reader, poll cfg statement count executed = (.ok delivered, after) ∧
      after.xsink = [] ∧ after.reader statement = some reader ∧ reader.kind = .resEnd ∧
      delivered.map some = ownRows cfg executed.connection.enc.isMultiByte script

end Calls

section Polled

variable {cfg : Config Playing} {isMultiByte : Bool} {statement : StatementId}
  {world : World Playing} {reader : Reader}

/-- With an exception pending, nothing is done. -/
theorem wp_run_raised {α : Type} {failed : α} {method : Driver Playing α}
    {onOk : α → World Playing → Prop} {onThrow : Error → World Playing → Prop}
    {onHalt : Halt → World Playing → Prop} (raised : world.xsink ≠ []) :
    wp (DBModuleWrap.run cfg statement failed method) onOk onThrow onHalt world ↔
      onOk failed world := by
  rw [DBModuleWrap.run, wp_tryCatch, DBModuleWrap.runBody, wp_bind, wp_isException, if_pos (by
    simpa using raised)]
  exact Iff.rfl

theorem wp_poll_raised (raised : world.xsink ≠ []) (count : Nat) :
    wp (poll cfg statement count) (fun _ after => after = world) noThrow noHalt world := by
  induction count with
  | zero => exact rfl
  | succ count inductionHypothesis =>
    rw [poll, wp_bind, pollOnce, wp_bind, DBModuleWrap.next, wp_run_raised raised,
      if_neg Bool.false_ne_true, wp_pure, wp_bind]
    exact inductionHypothesis

/-- A call of `next` with one of `fetch_row` does what the reader does. -/
theorem simulates_poll (plays : cfg.lib = CtLib.play)
    (follows : Follows cfg isMultiByte statement reader world) (count : Nat) :
    Simulates cfg isMultiByte statement (poll cfg statement count)
      (reader.poll cfg isMultiByte count) world := by
  induction count generalizing reader world with
  | zero => exact ⟨rfl, follows⟩
  | succ count inductionHypothesis =>
    have moves : Simulates cfg isMultiByte statement (DBModuleWrap.next cfg statement) _ world :=
      simulates_run follows (simulates_next plays follows)
    rw [poll, Reader.poll]
    cases moved : reader.next cfg isMultiByte with
    | none =>
      rw [moved] at moves
      rw [Simulates, wpOk, wp_bind, pollOnce, wp_bind]
      refine wp_mono_ok moves fun more after raised => ?_
      have rest : ∀ first : List Hash,
          wp (do
            let rest ← poll cfg statement count
            pure (first ++ rest)) (fun _ last => last.xsink ≠ []) (fun _ _ => True)
              (fun _ _ => True)
            after := by
        intro first
        rw [wp_bind]
        exact wp_mono (wp_poll_raised raised count) (fun _ _ same => same ▸ raised)
          (fun _ _ absent => absent.elim) fun _ _ absent => absent.elim
      cases more with
      | true =>
        rw [if_pos rfl, wp_bind, DBModuleWrap.fetchRow, wp_run_raised raised]
        exact rest _
      | false =>
        rw [if_neg Bool.false_ne_true]
        exact rest _
    | some result =>
      obtain ⟨more, after⟩ := result
      rw [moved] at moves
      cases more with
      | true =>
        have once : Simulates cfg isMultiByte statement (pollOnce cfg statement)
            (some (after.ahead.toList, { after with ahead := none })) world := by
          refine simulates_bind moves fun middle follows => ?_
          rw [if_pos rfl]
          exact simulates_map Option.toList (simulates_run follows (simulates_fetchRow follows))
        refine simulates_bind once fun middle follows => ?_
        exact simulates_map (after.ahead.toList ++ ·) (inductionHypothesis follows)
      | false =>
        have once : Simulates cfg isMultiByte statement (pollOnce cfg statement)
            (some ([], after)) world := by
          refine simulates_bind moves fun middle follows => ?_
          rw [if_neg Bool.false_ne_true]
          exact ⟨rfl, follows⟩
        refine simulates_bind once fun middle follows => ?_
        have rest := simulates_map ([] ++ ·) (inductionHypothesis follows)
        dsimp only
        cases polled : after.poll cfg isMultiByte count with
        | none =>
          rw [polled] at rest
          exact rest
        | some result =>
          rw [polled] at rest
          exact rest

end Polled

section Executed

variable {cfg : Config Playing} {world executed : World Playing} {statement : StatementId}
  {wrap : ModuleWrap}

/-- What a statement gets through is what can be read of the script, if it was executed with no row
fetched ahead. -/
theorem progresses_iff_readScript (plays : cfg.lib = CtLib.play)
    (held : world.statements statement = some wrap) (valid : wrap.m.valid = true)
    (older : ∀ old ∈ wrap.m.context, old < world.nextCommand) (isOpen : world.isOpen = true)
    (quiet : world.xsink = []) (fits : (world.env.reader wrap.m.execRes).Fits cfg.fuel)
    (ran : DBModuleWrap.exec cfg statement world = (.ok 0, executed)) :
    Progresses cfg statement world.env.script executed ↔ wrap.m.execRes = none ∧
      ∃ rows, readScript cfg world.connection.enc.isMultiByte none world.env.script = some rows ∧
        rows.map some = ownRows cfg world.connection.enc.isMultiByte world.env.script := by
  have follows := follows_of_executed plays held valid older isOpen quiet fits ran
  have atStart : (world.env.reader wrap.m.execRes).announce.ahead = wrap.m.execRes :=
    Reader.ahead_announce _
  have future : (world.env.reader wrap.m.execRes).announce.future cfg
      world.connection.enc.isMultiByte =
      readScript cfg world.connection.enc.isMultiByte none world.env.script :=
        Reader.future_announce
  rw [Progresses, follows.encoding]
  refine ⟨?_, ?_⟩
  · rintro ⟨few, -, polls⟩
    obtain ⟨delivered, after, last, ran, quietAfter, state, ends, same⟩ :=
      polls (few + 1) (Nat.le_succ few)
    obtain ⟨last', polled, atEnd⟩ := (returns_iff (fun reader => reader.kind = .resEnd)
      (simulates_poll plays follows (few + 1))).mp ⟨after, last, ran, quietAfter, state, ends⟩
    cases buffered : wrap.m.execRes with
    | none =>
      have read := Reader.future_poll (atStart.trans buffered) polled atEnd
      exact ⟨rfl, delivered, future.symm.trans read, same⟩
    | some row =>
      obtain ⟨rest, read, rfl⟩ :=
        Reader.future_poll_buffered (atStart.trans buffered) polled atEnd
      have length := length_readScript (future.symm.trans read)
      rw [← same, List.length_map, List.length_cons] at length
      omega
  · rintro ⟨unbuffered, rows, read, same⟩
    obtain ⟨few, last, fewer, ends, polls⟩ := Reader.poll_of_future (atStart.trans unbuffered)
      (future.trans read) (Reader.need_announce (world.env.reader wrap.m.execRes)).1
    have bounded : (world.env.reader wrap.m.execRes).need ≤
        (world.env.script.map Announcement.rowCount).sum + world.env.script.length + 1 :=
      Nat.succ_le_succ ((Nat.zero_add _).trans_le (Reader.sum_cost_le world.env.script))
    refine ⟨few, fewer.trans bounded, fun count enough => ?_⟩
    obtain ⟨after, last', ran, quietAfter, state, atEnd⟩ :=
      (returns_iff (fun reader => reader.kind = .resEnd) (simulates_poll plays follows count)).mpr
        ⟨last, polls count enough, ends⟩
    exact ⟨rows, after, last', ran, quietAfter, state, atEnd, same⟩

end Executed

/-- A prepared statement on a script that ends with a return status. -/
def statusWorld : World Playing :=
  { preparedWorld ⟨sampleColumns, [sampleRow]⟩ 1 with
    env := ⟨⟨[], []⟩, -1, [.row ⟨sampleColumns, [sampleRow]⟩, .status ⟨sampleColumns, [sampleRow]⟩,
      .done 1], 0⟩ }

end Sybase
