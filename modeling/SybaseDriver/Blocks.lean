/-
This file proves how many rows a call of `fetch_rows` or `fetch_columns` returns. The rows
of the current result that are not delivered are the row fetched ahead and those that are
left to read, as the columns of that result give them. `fetch_rows` makes one pass more than
rows are asked for: its first pass delivers nothing where no row was fetched ahead, and one
row too many where there was one. `fetch_columns` takes the rows that are left to read, and
passes over a row that was fetched ahead. Both need the columns of the current result to be
the ones that are bound: those of an earlier result are kept until a `CS_CMD_DONE`.
-/

import SybaseDriver.ReaderLogic

namespace Sybase

open Program Command Connection

namespace Reader

section Left

variable (cfg : Config Playing) (isMultiByte : Bool)

/-- Rows as their columns give them, if all of them can be read. -/
def readOwn (columns : List Datafmt) : List (List Cell) → Option (List Hash)
  | [] => some []
  | row :: rows =>
    (readCells cfg columns row).bind fun hash => (readOwn columns rows).map (hash :: ·)

/-- The rows of the current result that are not read, as its columns give them, if all of them can
be read. -/
def unread (reader : Reader) : Option (List Hash) :=
  if reader.current.described cfg isMultiByte = [] then none
  else readOwn cfg (reader.current.described cfg isMultiByte) reader.current.rows

/-- The columns that are known, if any are, are those of the current result, and bound for it. -/
def Anew (reader : Reader) : Prop :=
  ∀ bindings, reader.bindings = some bindings → bindings.current = true ∧
    bindings.columns = reader.current.described cfg isMultiByte ∧
    bindings.cells.length = bindings.columns.length

/-- The rows that are not read, of a current result of some kind. -/
def following (isSet : ResType → Bool) (reader : Reader) : Option (List Hash) :=
  if isSet reader.kind then reader.unread cfg isMultiByte else some []

/-- The rows that are not delivered: the row fetched ahead, and those that are not read. -/
def left (isSet : ResType → Bool) (reader : Reader) : Option (List Hash) :=
  (reader.following cfg isMultiByte isSet).map (reader.ahead.toList ++ ·)

/-- The state at the result whose rows `fetch_rows` is to deliver: the one that a row was fetched
ahead from, or else the one that is announced. -/
def delivering (reader : Reader) : Reader := if reader.ahead.isSome then reader else reader.announce

/-- The rows `fetch_rows` is to deliver. -/
def undelivered (reader : Reader) : Option (List Hash) :=
  reader.delivering.left cfg isMultiByte Statement.expectRow

/-- The current result has no rows that `next` fetches. -/
def BringsNone (reader : Reader) : Prop :=
  Statement.expectRow reader.kind = true →
    (reader.bound cfg isMultiByte).columns ≠ [] ∧ reader.current.rows = []

/-- No row was fetched ahead, or the rows that are not delivered make up one block at most. Where
the result of the row fetched ahead has ended, no rows may follow it in the result that is
announced. -/
def BlockEnds (k : Int) (reader : Reader) : Prop :=
  reader.ahead = none ∨
    if reader.kind.waits then reader.announce.BringsNone cfg isMultiByte
    else ∀ rows ∈ reader.following cfg isMultiByte Statement.expectRow, rows.length < k

end Left

section Reading

variable {cfg : Config Playing} {isMultiByte : Bool} {reader after : Reader} {rows : List Hash}

theorem overlay_of_length {cells row : List Cell} (length : cells.length = row.length) :
    overlay cells row = row := by
  induction cells generalizing row with
  | nil => rw [List.eq_nil_of_length_eq_zero length.symm]; rfl
  | cons cell cells inductionHypothesis =>
    cases row with
    | nil => cases length
    | cons first row => exact congrArg (first :: ·) (inductionHypothesis (Nat.succ.inj length))

/-- Rows are read one by one, each into the buffers of its columns. -/
theorem length_readOwn {columns : List Datafmt} {cells : List (List Cell)}
    (read : readOwn cfg columns cells = some rows) : rows.length = cells.length := by
  induction cells generalizing rows with
  | nil =>
    cases read
    rfl
  | cons row cells inductionHypothesis =>
    obtain ⟨hash, -, others⟩ := Option.bind_eq_some_iff.mp read
    obtain ⟨rest, isRest, rfl⟩ := Option.map_eq_some_iff.mp others
    rw [List.length_cons, List.length_cons, inductionHypothesis isRest]

/-- Columns that are not described yet are those of the current result. -/
theorem anew_of_none (none : reader.bindings = none) : reader.Anew cfg isMultiByte :=
  fun _ known => nomatch none.symm.trans known

/-- What the rows of a result are read with, where its own columns are bound. -/
theorem bound_of_anew (anew : reader.Anew cfg isMultiByte) :
    (reader.bound cfg isMultiByte).current = true ∧
      (reader.bound cfg isMultiByte).columns = reader.current.described cfg isMultiByte ∧
      (reader.bound cfg isMultiByte).cells.length =
      (reader.bound cfg isMultiByte).columns.length := by
  rw [bound]
  cases known : reader.bindings with
  | none => exact ⟨rfl, rfl, List.length_map _⟩
  | some bindings => exact anew bindings known

/-- Fetching reads the first row that is not read. -/
theorem fetch_of_unread (anew : reader.Anew cfg isMultiByte)
    (unread : reader.unread cfg isMultiByte = some rows) :
    ∃ after, reader.fetch cfg isMultiByte = some (rows.head?, after) ∧ after.ahead = reader.ahead ∧
      after.Anew cfg isMultiByte ∧ (rows = [] → after.kind = .resNone) ∧
      (rows ≠ [] → after.kind = reader.kind ∧ after.unread cfg isMultiByte = some rows.tail) := by
  obtain ⟨current, columns, length⟩ := bound_of_anew anew
  rw [Reader.unread] at unread
  split at unread
  · cases unread
  · rename_i nonempty
    rw [fetch]
    dsimp only
    rw [if_neg (columns ▸ nonempty)]
    cases left : reader.current.rows with
    | nil =>
      rw [left] at unread
      cases unread
      refine ⟨_, rfl, rfl, ?_, fun _ => rfl, fun absent => absurd rfl absent⟩
      intro bindings same
      cases same
      exact ⟨current, columns, length⟩
    | cons row rest =>
      rw [left, readOwn, Option.bind_eq_some_iff] at unread
      obtain ⟨hash, read, others⟩ := unread
      obtain ⟨tail, isTail, rfl⟩ := Option.map_eq_some_iff.mp others
      obtain ⟨values, decoded, -⟩ := Option.map_eq_some_iff.mp read
      have lengthRow : row.length = (reader.bound cfg isMultiByte).columns.length := by
        rw [columns, (decodeCells_length decoded).1]
      have stored : (reader.bound cfg isMultiByte).store row =
          { reader.bound cfg isMultiByte with cells := row } := by
        rw [Bindings.store, if_pos current, overlay_of_length (length.trans lengthRow.symm)]
      dsimp only
      rw [stored, columns, read]
      refine ⟨_, rfl, rfl, ?_, by simp, fun _ => ⟨rfl, ?_⟩⟩
      · intro bindings same
        cases same
        exact ⟨current, columns, lengthRow⟩
      · rw [Reader.unread]
        exact (if_neg nonempty).trans isTail

theorem columns_of_fetch {row : Option Hash}
    (fetched : reader.fetch cfg isMultiByte = some (row, after)) :
    (reader.bound cfg isMultiByte).columns ≠ [] := by
  rw [fetch] at fetched
  split at fetched
  · cases fetched
  · assumption

/-- The row fetched ahead plays no part in an announcement. -/
theorem announce_ahead (row : Option Hash) :
    Reader.announce { reader with ahead := row } = { reader.announce with ahead := row } := by
  rw [announce, announce]
  dsimp only
  split
  · split <;> rfl
  · rfl

theorem announce_of_expectRow (expected : Statement.expectRow reader.kind = true) :
    reader.announce = reader := by
  refine announce_of_stays fun waits => ?_
  rcases waits with kind | kind | kind <;> rw [kind] at expected <;> cases expected

theorem expectRow_isFetchable {kind : ResType} (expected : Statement.expectRow kind = true) :
    kind.isFetchable = true := by
  cases kind <;> first | rfl | cases expected

theorem not_expectRow_of_waits {kind : ResType} (waits : kind.waits) :
    Statement.expectRow kind = false := by
  rcases waits with rfl | rfl | rfl <;> rfl

/-- `next`, with no row fetched ahead, fetches the first row that follows. -/
theorem next_of_following (anew : reader.announce.Anew cfg isMultiByte)
    (following : reader.announce.following cfg isMultiByte Statement.expectRow = some rows) :
    ∃ after, Reader.next cfg isMultiByte { reader with ahead := none } =
        some (rows.head?.isSome, after) ∧ after.ahead = rows.head? ∧
      after.following cfg isMultiByte Statement.expectRow = some rows.tail ∧
      (rows ≠ [] → after.announce = after ∧ after.Anew cfg isMultiByte) := by
  rw [next, announce_ahead]
  rw [Reader.following] at following
  by_cases expected : Statement.expectRow reader.announce.kind = true
  · rw [if_pos expected] at following
    have unread : ({ reader.announce with ahead := none } : Reader).unread cfg isMultiByte =
        some rows := following
    obtain ⟨after, fetched, -, still, atEnd, atRow⟩ :=
      @fetch_of_unread cfg isMultiByte { reader.announce with ahead := none } rows anew unread
    dsimp only
    rw [if_pos ⟨expected, rfl⟩, fetched, Option.map_some]
    refine ⟨_, rfl, rfl, ?_, fun some => ⟨announce_of_expectRow ?_, still⟩⟩
    · cases rows with
      | nil => rw [Reader.following, atEnd rfl]; rfl
      | cons row rest =>
        obtain ⟨kind, unread⟩ := atRow (List.cons_ne_nil _ _)
        rw [Reader.following, kind, if_pos expected]
        exact unread
    · rw [(atRow some).1]
      exact expected
  · rw [if_neg expected] at following
    cases following
    dsimp only
    rw [if_neg fun both => expected both.1]
    refine ⟨_, rfl, rfl, ?_, fun absent => absurd rfl absent⟩
    rw [Reader.following, if_neg expected]
    rfl

/-- The passes of `fetch_rows` deliver the row fetched ahead and, of the rows that follow, one less
than there are passes. -/
theorem passes_of_following (anew : reader.announce.Anew cfg isMultiByte)
    (following : reader.announce.following cfg isMultiByte Statement.expectRow = some rows)
    (count : Nat) :
    ∃ after, reader.passes cfg isMultiByte (count + 1) =
        some (reader.ahead.toList ++ rows.take count, after) ∧
      after.left cfg isMultiByte Statement.expectRow = some (rows.drop count) := by
  induction count generalizing reader rows with
  | zero =>
    obtain ⟨after, moved, ahead, rest, -⟩ := next_of_following anew following
    rw [passes, moved]
    cases rows with
    | nil =>
      refine ⟨after, by simp, ?_⟩
      rw [left, ahead, rest]
      rfl
    | cons row rows =>
      refine ⟨after, rfl, ?_⟩
      rw [left, ahead, rest]
      rfl
  | succ count inductionHypothesis =>
    obtain ⟨after, moved, ahead, rest, stays⟩ := next_of_following anew following
    rw [passes, moved]
    cases rows with
    | nil =>
      refine ⟨after, by simp, ?_⟩
      rw [left, ahead, rest]
      rfl
    | cons row rows =>
      obtain ⟨same, still⟩ := stays (List.cons_ne_nil _ _)
      obtain ⟨last, passed, left⟩ := inductionHypothesis (same.symm ▸ still) (same.symm ▸ rest)
      rw [ahead] at passed
      refine ⟨last, ?_, left⟩
      rw [List.head?_cons, Option.isSome_some]
      dsimp only
      rw [passed]
      rfl

/-- A pass that goes on delivers the row fetched ahead. -/
theorem passes_ahead {count : Nat} {delivered : List Hash}
    (passed : reader.passes cfg isMultiByte (count + 1) = some (delivered, after)) :
    ∃ rest, delivered = reader.ahead.toList ++ rest := by
  rw [passes] at passed
  split at passed
  · cases passed
  · cases passed
    exact ⟨[], (List.append_nil _).symm⟩
  · obtain ⟨⟨rest, last⟩, -, same⟩ := Option.map_eq_some_iff.mp passed
    cases same
    exact ⟨rest, rfl⟩

/-- `next` says whether it has left a row fetched ahead. -/
theorem ahead_next {more : Bool} (moved : reader.next cfg isMultiByte = some (more, after)) :
    more = after.ahead.isSome := by
  rw [next] at moved
  split at moved
  · obtain ⟨⟨row, fetched⟩, -, same⟩ := Option.map_eq_some_iff.mp moved
    cases same
    rfl
  · cases moved
    rfl

/-- `next` fetches no row only where the announced result brings none. -/
theorem bringsNone_of_next
    (moved : Reader.next cfg isMultiByte { reader with ahead := none } = some (false, after)) :
    reader.announce.BringsNone cfg isMultiByte := by
  rw [next, announce_ahead] at moved
  dsimp only at moved
  intro expected
  rw [if_pos ⟨expected, rfl⟩] at moved
  obtain ⟨⟨row, middle⟩, fetched, same⟩ := Option.map_eq_some_iff.mp moved
  have isNone : row.isSome = false := congrArg Prod.fst same
  have isEmpty : reader.announce.current.rows.isEmpty = true := by
    simpa [isNone] using (rows_fetch fetched).1
  have columns := columns_of_fetch fetched
  exact ⟨columns, List.isEmpty_iff.mp isEmpty⟩

/-- Where the announced result brings no rows, a pass delivers the row fetched ahead and is the last
one. -/
theorem passes_of_bringsNone (brings : reader.announce.BringsNone cfg isMultiByte) (count : Nat) :
    ∃ after, reader.passes cfg isMultiByte (count + 1) = some (reader.ahead.toList, after) ∧
      after.left cfg isMultiByte Statement.expectRow = some [] := by
  rw [passes, next, announce_ahead]
  dsimp only
  by_cases expected : Statement.expectRow reader.announce.kind = true
  · obtain ⟨columns, rows⟩ := brings expected
    have bound : Reader.bound cfg isMultiByte { reader.announce with ahead := none } =
        reader.announce.bound cfg isMultiByte := rfl
    rw [if_pos ⟨expected, rfl⟩, fetch, bound]
    dsimp only
    rw [if_neg columns, rows]
    exact ⟨_, rfl, rfl⟩
  · rw [if_neg fun both => expected both.1]
    refine ⟨_, rfl, ?_⟩
    rw [left, following, if_neg expected]
    rfl

/-- Two passes deliver just the row fetched ahead only where the announced result brings no rows. -/
theorem bringsNone_of_passes {count : Nat}
    (passed : reader.passes cfg isMultiByte (count + 2) = some (reader.ahead.toList, after)) :
    reader.announce.BringsNone cfg isMultiByte := by
  rw [passes] at passed
  split at passed
  · cases passed
  · rename_i moved
    exact bringsNone_of_next moved
  · rename_i middle moved
    obtain ⟨⟨delivered, last⟩, isRest, same⟩ := Option.map_eq_some_iff.mp passed
    obtain ⟨rest, rfl⟩ := passes_ahead isRest
    obtain ⟨row, isRow⟩ := Option.isSome_iff_exists.mp (ahead_next moved).symm
    have same : reader.ahead.toList ++ (middle.ahead.toList ++ rest) = reader.ahead.toList :=
      congrArg Prod.fst same
    rw [isRow] at same
    exact absurd (List.append_right_eq_self.mp same) (List.cons_ne_nil _ _)

/-- `fetch_rows` delivers one block of the rows that are not delivered, and leaves the others. -/
def TakesBlock (cfg : Config Playing) (isMultiByte : Bool) (k : Int) (rows : List Hash)
    (reader : Reader) : Prop :=
  ∃ after, reader.fetchRows cfg isMultiByte k = some (rows.take k.toNat, after) ∧
    after.left cfg isMultiByte Statement.expectRow = some (rows.drop k.toNat)

theorem takesBlock_iff {k : Int} (positive : 0 < k)
    (anew : reader.delivering.Anew cfg isMultiByte)
    (undelivered : reader.undelivered cfg isMultiByte = some rows) :
    reader.TakesBlock cfg isMultiByte k rows ↔ reader.BlockEnds cfg isMultiByte k := by
  obtain ⟨count, rfl⟩ : ∃ count : Nat, k = (count + 1 : Nat) := ⟨k.toNat - 1, by omega⟩
  rw [TakesBlock, BlockEnds, fetchRows, if_pos positive, Int.toNat_natCast]
  rw [Reader.undelivered, left] at undelivered
  obtain ⟨rest, following, rfl⟩ := Option.map_eq_some_iff.mp undelivered
  rw [delivering] at anew following ⊢
  cases buffered : reader.ahead with
  | none =>
    rw [buffered, if_neg (by simp)] at following anew
    obtain ⟨after, passed, leaves⟩ := passes_of_following anew following (count + 1)
    rw [buffered] at passed
    refine ⟨fun _ => .inl rfl, fun _ => ⟨after, ?_, ?_⟩⟩
    · rw [passed, if_neg (by simp), ahead_announce, buffered]
      rfl
    · rw [leaves, if_neg (by simp), ahead_announce, buffered]
      rfl
  | some row =>
    rw [buffered, if_pos (by simp)] at following anew
    rw [if_pos (by simp), buffered]
    split
    · rename_i waits
      -- the result of the row has ended, so the row is all there is to deliver
      rw [Reader.following, not_expectRow_of_waits waits] at following
      cases following
      refine ⟨?_, ?_⟩
      · rintro ⟨after, passed, -⟩
        refine .inr (@bringsNone_of_passes cfg isMultiByte reader after count ?_)
        rw [buffered, passed]
        simp
      · rintro (absent | brings)
        · cases absent
        · obtain ⟨after, passed, leaves⟩ := passes_of_bringsNone brings (count + 1)
          rw [buffered] at passed
          rw [List.append_nil, Option.toList_some, List.take_of_length_le (by simp),
            List.drop_of_length_le (by simp)]
          exact ⟨after, passed, leaves⟩
    · rename_i stays
      obtain ⟨after, passed, leaves⟩ := passes_of_following ((announce_of_stays stays).symm ▸ anew)
        ((announce_of_stays stays).symm ▸ following) (count + 1)
      rw [buffered] at passed
      refine ⟨?_, ?_⟩
      · rintro ⟨after', passed', -⟩
        refine .inr fun rows isRest => ?_
        obtain rfl := Option.some_inj.mp (following.symm.trans isRest)
        have same : (row :: rest.take (count + 1)).length =
            ((row :: rest).take (count + 1)).length :=
          congrArg (fun result => List.length (Prod.fst result))
            (Option.some_inj.mp (passed.symm.trans passed'))
        simp only [List.length_cons, List.length_take] at same
        omega
      · rintro (absent | fewer)
        · cases absent
        · have fewer : rest.length ≤ count := by
            have fewer := fewer rest following
            omega
          refine ⟨after, ?_, ?_⟩
          · rw [passed, List.take_of_length_le (by omega), List.take_of_length_le (by simp; omega)]
          · rw [leaves, List.drop_of_length_le (by omega), List.drop_of_length_le (by simp; omega)]

end Reading

/-! ### Calls of an executed statement -/

/-- The state after a method that reads the results of a statement. -/
def afterOp (cfg : Config Playing) (isMultiByte : Bool) (reader : Reader) :
    StatementOp → Option Reader
  | .next => (reader.next cfg isMultiByte).map Prod.snd
  | .fetchRow => some { reader with ahead := none }
  | .fetchRows rows => (reader.fetchRows cfg isMultiByte rows).map Prod.snd
  | .fetchColumns rows => (reader.fetchColumns cfg isMultiByte rows).map Prod.snd
  | .getOutput => (reader.fetchColumns cfg isMultiByte (-1)).map Prod.snd
  | _ => some reader

end Reader

/-- The methods that read the results of an executed statement. -/
def StatementOp.reads : StatementOp → Bool
  | .next | .fetchRow | .fetchRows _ | .fetchColumns _ | .getOutput | .affectedRows
  | .unsupported => true
  | .bindPlaceholders l => (Statement.toPlaceholders l).isSome
  | _ => false

/-- The states of an executed statement that are reached by calls which each meet a condition and
return without an exception. -/
inductive ReadFrom (cfg : Config Playing) (statement : StatementId)
    (allowed : StatementOp → Reader → Prop) (executed : World Playing) : World Playing → Prop where
  | executed : ReadFrom cfg statement allowed executed executed
  | call {world after : World Playing} {op : StatementOp} {reader : Reader}
      (reached : ReadFrom cfg statement allowed executed world)
      (state : world.reader statement = some reader) (meets : allowed op reader)
      (ran : op.run cfg statement world = (.ok (), after)) (quiet : after.xsink = []) :
      ReadFrom cfg statement allowed executed after

section Calls

variable {cfg : Config Playing} {isMultiByte : Bool} {statement : StatementId}
  {world after executed : World Playing} {reader : Reader}

/-- A method whose result is made another value. -/
theorem simulates_map {α β : Type} {program : Driver Playing α} {step : Option (α × Reader)}
    (make : α → β) (simulates : Simulates cfg isMultiByte statement program step world) :
    Simulates cfg isMultiByte statement (do pure (make (← program)))
      (step.map fun (value, after) => (make value, after)) world := by
  cases step with
  | none => exact wpOk_fails simulates fun _ => keeps_pure _
  | some result =>
    obtain ⟨value, after⟩ := result
    exact simulates_bind simulates fun middle follows => ⟨rfl, follows⟩

/-- `Statement::affected_rows`. -/
theorem simulates_affectedRows (follows : Follows cfg isMultiByte statement reader world) :
    ∃ count, Simulates cfg isMultiByte statement (Statement.affectedRows statement)
      (some (count, reader)) world := by
  obtain ⟨wrap, id, cmd, held, valid, context, -, command, -⟩ := follows.reads
  refine ⟨cmd.rowcount, ?_⟩
  rw [Statement.affectedRows]
  refine simulates_checkValid follows ?_
  rw [Statement.getContext, ← bind_bind]
  refine simulates_getModuleWrap held ?_
  rw [context, Simulates, wp_bind, wp_pure, wp_bind, wp_getCommand_some command]
  exact ⟨rfl, follows⟩

/-- `Statement::bind_placeholders`, which only changes the names of the output parameters. -/
theorem simulates_bindPlaceholders (follows : Follows cfg isMultiByte statement reader world)
    {l : List QoreValue} (strings : (Statement.toPlaceholders l).isSome) :
    Simulates cfg isMultiByte statement (Statement.bindPlaceholders statement l)
      (some (0, reader)) world := by
  obtain ⟨placeholders, isStrings⟩ := Option.isSome_iff_exists.mp strings
  rw [Statement.bindPlaceholders]
  refine simulates_checkValid follows ?_
  rw [isStrings]
  refine ⟨rfl, ?_⟩
  obtain ⟨isOpen, quiet, encoding, fits, wrap, id, cmd, held, valid, context, ahead, command,
      serves⟩ :=
    follows
  exact ⟨isOpen, quiet, encoding, fits,
    { wrap with m := { wrap.m with placeholders := placeholders } },
    id, cmd, by simp [held], valid, context, ahead, command, serves⟩

/-- A method that reads results does what the reader does. -/
theorem simulates_op (plays : cfg.lib = CtLib.play)
    (follows : Follows cfg isMultiByte statement reader world) (op : StatementOp)
    (reads : op.reads = true) :
    Simulates cfg isMultiByte statement (op.run cfg statement)
      ((reader.afterOp cfg isMultiByte op).map fun after => ((), after)) world := by
  have discards : ∀ {α : Type} (failed : α) {method : Driver Playing α}
      {step : Option (α × Reader)} {last : Option Reader},
      Simulates cfg isMultiByte statement method step world → step.map Prod.snd = last →
      Simulates cfg isMultiByte statement
        (do let _ ← DBModuleWrap.run cfg statement failed method)
        (last.map fun after => ((), after)) world := by
    rintro α failed method step _ simulates rfl
    rw [Option.map_map]
    exact simulates_map (fun _ => ()) (simulates_run follows simulates)
  cases op with
  | next => exact discards false (simulates_next plays follows) rfl
  | fetchRow => exact discards none (simulates_fetchRow follows) rfl
  | fetchRows rows =>
    exact discards none (simulates_fetchRows plays follows rows) (Option.map_map _ _ _)
  | fetchColumns rows =>
    exact discards none (simulates_fetchColumns plays follows rows) (Option.map_map _ _ _)
  | getOutput =>
    obtain ⟨placeholders, simulates⟩ := simulates_getOutput plays follows
    exact discards none simulates (Option.map_map _ _ _)
  | affectedRows =>
    obtain ⟨count, simulates⟩ := simulates_affectedRows follows
    exact discards 0 simulates rfl
  | bindPlaceholders l => exact discards 0 (simulates_bindPlaceholders follows reads) rfl
  | unsupported =>
    have simulates : Simulates cfg isMultiByte statement (pure (0 : Int))
        (some (0, reader)) world :=
      ⟨rfl, follows⟩
    exact discards 0 simulates rfl
  | _ => cases reads

/-- A call that returns without an exception is a step of the reader. -/
theorem follows_of_ran {op : StatementOp} (plays : cfg.lib = CtLib.play)
    (follows : Follows cfg isMultiByte statement reader world) (reads : op.reads = true)
    (ran : op.run cfg statement world = (.ok (), after)) (quiet : after.xsink = []) :
    ∃ reader', reader.afterOp cfg isMultiByte op = some reader' ∧
      Follows cfg isMultiByte statement reader' after := by
  have simulates := simulates_op plays follows op reads
  cases next : reader.afterOp cfg isMultiByte op with
  | none =>
    rw [next, Option.map_none, Simulates, wpOk, wp, ran] at simulates
    exact absurd quiet simulates
  | some reader' =>
    rw [next, Option.map_some, Simulates, wp, ran] at simulates
    exact ⟨reader', rfl, simulates.2⟩

/-- An invariant of the reader holds in every state that is reached. -/
theorem follows_of_readFrom {allowed : StatementOp → Reader → Prop} (plays : cfg.lib = CtLib.play)
    (reads : ∀ op reader, allowed op reader → op.reads = true) (invariant : Reader → Prop)
    (kept : ∀ {op reader after}, allowed op reader → invariant reader →
      reader.afterOp cfg isMultiByte op = some after → invariant after)
    (follows : Follows cfg isMultiByte statement reader executed) (holds : invariant reader)
    (reached : ReadFrom cfg statement allowed executed world) :
    ∃ reader', Follows cfg isMultiByte statement reader' world ∧ invariant reader' := by
  induction reached with
  | executed => exact ⟨reader, follows, holds⟩
  | call _ state meets ran quiet inductionHypothesis =>
    obtain ⟨middle, followsMiddle, holdsMiddle⟩ := inductionHypothesis
    obtain rfl := Option.some_inj.mp (followsMiddle.reader_eq.symm.trans state)
    obtain ⟨last, moved, followsLast⟩ :=
      follows_of_ran plays followsMiddle (reads _ _ meets) ran quiet
    exact ⟨last, followsLast, kept meets holdsMiddle moved⟩

/-- What a call returns, and what it leaves, is what the reader's step returns and leaves. -/
theorem returns_iff {α : Type} {program : Driver Playing α} {step : Option (α × Reader)} {value : α}
    (leaves : Reader → Prop) (simulates : Simulates cfg isMultiByte statement program step world) :
    (∃ after reader', program world = (.ok value, after) ∧ after.xsink = [] ∧
      after.reader statement = some reader' ∧ leaves reader') ↔
      ∃ reader', step = some (value, reader') ∧ leaves reader' := by
  cases step with
  | none =>
    refine ⟨?_, fun ⟨_, absent, _⟩ => nomatch absent⟩
    rintro ⟨after, reader', ran, quiet, -⟩
    rw [Simulates, wpOk, wp, ran] at simulates
    exact absurd quiet simulates
  | some result =>
    obtain ⟨value', last⟩ := result
    obtain ⟨_, after, ran, rfl, follows⟩ := returns_of_wp simulates
    refine ⟨?_, ?_⟩
    · rintro ⟨after', reader', ran', -, state, left⟩
      obtain ⟨same, rfl⟩ := Prod.mk.inj (ran.symm.trans ran')
      cases same
      obtain rfl := Option.some_inj.mp (follows.reader_eq.symm.trans state)
      exact ⟨_, rfl, left⟩
    · rintro ⟨reader', same, left⟩
      cases same
      exact ⟨after, last, ran, follows.quiet, follows.reader_eq, left⟩

end Calls

/-! ### Blocks of rows -/

section Blocks

variable (cfg : Config Playing) (statement : StatementId)

/-- `fetch_rows` returns one block of the rows that are not delivered, and leaves the others. -/
def TakesBlock (k : Int) (rows : List Hash) (world : World Playing) : Prop :=
  ∃ after reader, DBModuleWrap.fetchRows cfg statement k world =
      (.ok (some (rows.take k.toNat)), after) ∧ after.xsink = [] ∧
    after.reader statement = some reader ∧
    reader.left cfg world.connection.enc.isMultiByte Statement.expectRow = some (rows.drop k.toNat)

/-- In every state of a statement that was executed with no row fetched ahead, and whose rows can be
read in the columns that are bound, `fetch_rows` returns one block of the rows of the current result
set that are not delivered, if and only if no row was fetched ahead or these rows make up one block
at most. -/
theorem fetchRows_takesBlock_iff {world executed reached : World Playing} {wrap : ModuleWrap}
    {reader : Reader} {rows : List Hash} {k : Int} (plays : cfg.lib = CtLib.play)
    (held : world.statements statement = some wrap) (valid : wrap.m.valid = true)
    (older : ∀ old ∈ wrap.m.context, old < world.nextCommand) (unbuffered : wrap.m.execRes = none)
    (isOpen : world.isOpen = true) (quiet : world.xsink = [])
    (fits : (world.env.reader none).Fits cfg.fuel)
    (ran : DBModuleWrap.exec cfg statement world = (.ok 0, executed))
    (reads : ReadFrom cfg statement (fun op _ => op.reads = true) executed reached)
    (state : reached.reader statement = some reader)
    (anew : reader.delivering.Anew cfg reached.connection.enc.isMultiByte)
    (undelivered : reader.undelivered cfg reached.connection.enc.isMultiByte = some rows)
    (positive : 0 < k) :
    TakesBlock cfg statement k rows reached ↔
      reader.BlockEnds cfg reached.connection.enc.isMultiByte k := by
  have started := follows_of_executed plays held valid older isOpen quiet (unbuffered ▸ fits) ran
  obtain ⟨reader', follows, -⟩ := follows_of_readFrom plays (fun _ _ meets => meets)
    (fun _ => True) (fun _ _ _ => trivial) started trivial reads
  obtain rfl := Option.some_inj.mp (follows.reader_eq.symm.trans state)
  rw [← follows.encoding] at follows
  rw [← Reader.takesBlock_iff positive anew undelivered]
  have simulates : Simulates cfg reached.connection.enc.isMultiByte statement
      (DBModuleWrap.fetchRows cfg statement k) _ reached :=
    simulates_run follows (simulates_fetchRows plays follows k)
  refine (returns_iff (fun last => last.left cfg reached.connection.enc.isMultiByte
    Statement.expectRow = some (rows.drop k.toNat)) simulates).trans ⟨?_, ?_⟩
  · rintro ⟨last, moved, left⟩
    obtain ⟨⟨delivered, after⟩, fetched, same⟩ := Option.map_eq_some_iff.mp moved
    cases same
    exact ⟨_, fetched, left⟩
  · rintro ⟨last, fetched, left⟩
    exact ⟨last, by rw [fetched]; rfl, left⟩

end Blocks

/-- Two rows of the sample columns. -/
def twoRows : Fetchable :=
  ⟨sampleColumns, [sampleRow, [⟨[3, 0, 0, 0], 4, 0⟩, ⟨[4, 0, 0, 0], 4, 0⟩]]⟩

/-- A state of a statement in which rows can be read, and what can be decided of it. -/
theorem exists_rows {world : World Playing} {rowsIn : Reader → Option (List Hash)}
    {check : Reader → List Hash → Bool}
    (checks : ((world.reader 0).any fun reader =>
      (rowsIn reader).any fun rows => check reader rows) = true) :
    ∃ reader rows, world.reader 0 = some reader ∧ rowsIn reader = some rows ∧
      check reader rows = true := by
  obtain ⟨reader, state, checks⟩ := (Option.any_eq_true _ _).mp checks
  obtain ⟨rows, isRows, checks⟩ := (Option.any_eq_true _ _).mp checks
  exact ⟨reader, rows, state, isRows, checks⟩

theorem fetchRows_takesBlock_twoRows : ∃ rows, rows.length = 2 ∧
    TakesBlock playConfig 0 1 rows (executedWorld twoRows 2) := by
  obtain ⟨reader, rows, state, undelivered, checks⟩ := exists_rows (show
    (((executedWorld twoRows 2).reader 0).any fun reader =>
      (reader.undelivered playConfig true).any fun rows =>
        reader.delivering.bindings.isNone && (reader.ahead.isNone && rows.length == 2)) = true by
      decide +kernel)
  obtain ⟨notDescribed, checks⟩ := Bool.and_eq_true_iff.mp checks
  obtain ⟨isNone, length⟩ := Bool.and_eq_true_iff.mp checks
  refine ⟨rows, beq_iff_eq.mp length, ?_⟩
  exact (@fetchRows_takesBlock_iff playConfig 0 (preparedWorld twoRows 2) _ _ _
    reader rows 1 rfl rfl
    rfl (fun _ absent => by cases absent) rfl rfl rfl ⟨by decide, by decide⟩ rfl .executed state
    (Reader.anew_of_none (Option.isNone_iff_eq_none.mp notDescribed)) undelivered (by decide)).mpr
    (.inl (Option.isNone_iff_eq_none.mp isNone))

/-- A call whose result is made another value. -/
theorem run_map {α β : Type} {program : Driver Playing α} {world after : World Playing} {value : α}
    (make : α → β) (ran : program world = (.ok value, after)) :
    (do pure (make (← program)) : Driver Playing β) world = (.ok (make value), after) := by
  rw [bind_of_returned ran]
  rfl

/-- The state in which the first row was fetched ahead. -/
def bufferedWorld (result : Fetchable) (count : Int) : World Playing :=
  (DBModuleWrap.next playConfig 0 (executedWorld result count)).2

/-- Of two rows, the first of which was fetched ahead, `fetch_rows` returns both in a block of
one. -/
theorem not_takesBlock_fetchedAhead : ∃ executed reached reader rows,
    DBModuleWrap.exec playConfig 0 (preparedWorld twoRows 2) = (.ok 0, executed) ∧
    ReadFrom playConfig 0 (fun op _ => op.reads = true) executed reached ∧
    reached.reader 0 = some reader ∧ reader.undelivered playConfig true = some rows ∧
    rows.length = 2 ∧ ¬TakesBlock playConfig 0 1 rows reached := by
  obtain ⟨first, -, start, -⟩ := exists_rows (show
    (((executedWorld twoRows 2).reader 0).any fun reader =>
      (reader.undelivered playConfig true).any fun _ => true) = true by decide +kernel)
  obtain ⟨reader, rows, state, undelivered, length⟩ := exists_rows (show
    (((bufferedWorld twoRows 2).reader 0).any fun reader =>
      (reader.undelivered playConfig true).any fun rows =>
        rows.length == 2) = true by decide +kernel)
  obtain ⟨_, ran, -⟩ := exists_returned (show
    (DBModuleWrap.next playConfig 0 (executedWorld twoRows 2)).1.returns (fun _ => true) = true by
      decide +kernel)
  have moves : StatementOp.next.run playConfig 0 (executedWorld twoRows 2) =
      (.ok (), bufferedWorld twoRows 2) := run_map (fun _ => ()) ran
  refine ⟨_, _, reader, rows, rfl, .call .executed start rfl moves (by decide +kernel), state,
    undelivered, beq_iff_eq.mp length, ?_⟩
  rintro ⟨after, -, ran, -⟩
  have two : (DBModuleWrap.fetchRows playConfig 0 1 (bufferedWorld twoRows 2)).1.returns
      (fun block => block.any (2 ≤ ·.length)) = true := by decide +kernel
  rw [ran, Outcome.returns, Option.any_some, decide_eq_true_iff] at two
  exact absurd (two.trans (List.length_take_le 1 rows)) (by decide)

end Sybase
