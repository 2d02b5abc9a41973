/-
This file proves what `fetch_columns` returns, and what any mix of row and column fetches
delivers. A hash of columns holds the rows it was made of, so the rows that calls of both
kinds deliver can be put one after the other. Where `fetch_columns` is called only while no
row is fetched ahead, no call delivers or passes over a row out of turn.
-/

import SybaseDriver.Blocks

namespace Sybase

open Program Command Connection

/-! ### The rows of a hash of columns -/

/-- The value at an index of a column. -/
def elementAt (index : Nat) : QoreValue → QoreValue
  | .list elements => elements.getD index .nothing
  | _ => .nothing

/-- The number of values of a column. -/
def elementCount : QoreValue → Nat
  | .list elements => elements.length
  | _ => 0

/-- The rows of a hash of columns. -/
def rowsOf (h : Hash) : List Hash :=
  (List.range ((h.head?.map fun entry => elementCount entry.2).getD 0)).map fun index =>
    h.map fun entry => (entry.1, elementAt index entry.2)

/-- All columns have as many values as there are rows. -/
theorem elementCount_columnsFrom {rows : List (List QoreValue)} {keys : List Text} {index : Nat} :
    ∀ entry ∈ columnsFrom rows keys index, elementCount entry.2 = rows.length := by
  induction keys generalizing index with
  | nil => exact fun _ member => absurd member List.not_mem_nil
  | cons key keys inductionHypothesis =>
    intro entry member
    rcases List.mem_cons.mp member with rfl | later
    · exact List.length_map _
    · exact inductionHypothesis entry later

/-- The lists of a hash of columns are equally long. -/
theorem elementCount_asColumns (rows : List Hash) :
    ∀ entry ∈ asColumns rows, elementCount entry.2 = rows.length := by
  cases rows with
  | nil => exact fun _ member => absurd member List.not_mem_nil
  | cons first rest =>
    intro entry member
    rw [elementCount_columnsFrom entry member, List.length_map]

/-- The values at one index of the columns are those of the row at that index. -/
theorem map_elementAt_columnsFrom {rows : List (List QoreValue)} {row : List QoreValue}
    {keys : List Text} {index number : Nat} (isRow : rows[number]? = some row)
    (length : row.length = index + keys.length) :
    (columnsFrom rows keys index).map (fun entry => (entry.1, elementAt number entry.2)) =
      keys.zip (row.drop index) := by
  induction keys generalizing index with
  | nil => rfl
  | cons key keys inductionHypothesis =>
    rw [List.length_cons] at length
    have inRow : index < row.length := by omega
    rw [columnsFrom, List.map_cons, inductionHypothesis (by omega), List.drop_eq_getElem_cons inRow,
      List.zip_cons_cons]
    congr 2
    rw [elementAt, List.getD_eq_getElem?_getD, List.getElem?_map, isRow]
    simp [inRow]

theorem zip_map_fst_snd (row : Hash) : (row.map Prod.fst).zip (row.map Prod.snd) = row := by
  induction row with
  | nil => rfl
  | cons entry row inductionHypothesis =>
    rw [List.map_cons, List.map_cons, List.zip_cons_cons, inductionHypothesis]

/-- A hash of columns holds the rows it was made of. -/
theorem rowsOf_asColumns {rows : List Hash} {keys : List Text} (nonempty : keys ≠ [])
    (sameKeys : ∀ row ∈ rows, row.map Prod.fst = keys) : rowsOf (asColumns rows) = rows := by
  cases rows with
  | nil => rfl
  | cons first rest =>
    have firstKeys := sameKeys first List.mem_cons_self
    obtain ⟨key, keys, rfl⟩ := List.exists_cons_of_ne_nil nonempty
    rw [rowsOf, asColumns, firstKeys]
    refine List.ext_getElem ?_ fun number inRange inRows => ?_
    · simp [columnsFrom, elementCount]
    · have isRow : ((first :: rest).map fun row => row.map Prod.snd)[number]? =
          some ((first :: rest)[number].map Prod.snd) := by
        rw [List.getElem?_map, List.getElem?_eq_getElem inRows, Option.map_some]
      have keysOf := sameKeys _ (List.getElem_mem inRows)
      rw [List.getElem_map, List.getElem_range,
        map_elementAt_columnsFrom isRow (by rw [← keysOf]; simp), List.drop_zero, ← keysOf,
        zip_map_fst_snd]

/-! ### Fetching many rows -/

/-- The rows of one call of `fetch_columns`: a number of rows, or all of them. -/
def blockOf (n : Int) (rows : List Hash) : List Hash := if n > 0 then rows.take n.toNat else rows

/-- The rows such a call leaves. -/
def restOf (n : Int) (rows : List Hash) : List Hash := if n > 0 then rows.drop n.toNat else []

theorem blockOf_append_restOf (n : Int) (rows : List Hash) :
    blockOf n rows ++ restOf n rows = rows := by
  rw [blockOf, restOf]
  split
  · exact List.take_append_drop _ _
  · exact List.append_nil _

/-- The calls that fetch rows, one by one, in blocks, or as columns. -/
inductive FetchCall where
  | rows (call : RowCall)
  | columns (n : Int)

/-- Columns are fetched only while no row is fetched ahead. -/
def FetchCall.Unbuffered : FetchCall → Reader → Prop
  | rows _, _ => True
  | columns _, reader => reader.ahead = none

namespace Reader

/-- The rows a call delivers. -/
def mix (cfg : Config Playing) (isMultiByte : Bool) (reader : Reader) :
    FetchCall → Option (List Hash × Reader)
  | .rows .next => (reader.next cfg isMultiByte).map fun (_, after) => ([], after)
  | .rows .fetchRow => some (reader.ahead.toList, { reader with ahead := none })
  | .rows (.fetchRows rows) => reader.fetchRows cfg isMultiByte rows
  | .columns n => reader.fetchColumns cfg isMultiByte n

/-- A row was fetched ahead only from the result that is read. -/
def Ready (reader : Reader) : Prop :=
  reader.ahead.isSome → Statement.expectRow reader.kind = true

section Mixing

variable {cfg : Config Playing} {isMultiByte : Bool} {reader after : Reader} {rows : List Hash}

/-- The passes of `read_cols` read the first rows that are not read. -/
theorem fetchMany_of_unread (anew : reader.Anew cfg isMultiByte)
    (unread : reader.unread cfg isMultiByte = some rows)
    (fetchable : reader.kind.isFetchable = true) (count : Nat) :
    ∃ after, reader.fetchMany cfg isMultiByte count = some (rows.take count, after) ∧
      after.ahead = reader.ahead ∧ after.Anew cfg isMultiByte ∧
      after.following cfg isMultiByte ResType.isFetchable = some (rows.drop count) := by
  induction count generalizing reader rows with
  | zero =>
    refine ⟨reader, rfl, rfl, anew, ?_⟩
    rw [following, if_pos fetchable, unread]
    rfl
  | succ count inductionHypothesis =>
    obtain ⟨middle, fetched, ahead, still, atEnd, atRow⟩ := fetch_of_unread anew unread
    rw [fetchMany, fetched]
    cases rows with
    | nil =>
      refine ⟨middle, rfl, ahead, still, ?_⟩
      rw [following, atEnd rfl]
      rfl
    | cons row rows =>
      obtain ⟨kind, rest⟩ := atRow (List.cons_ne_nil _ _)
      obtain ⟨last, fetchedRest, aheadRest, anewLast, left⟩ :=
        inductionHypothesis still rest (kind ▸ fetchable)
      rw [List.head?_cons]
      dsimp only
      rw [fetchedRest]
      exact ⟨last, rfl, aheadRest.trans ahead, anewLast, left⟩

/-- `fetch_columns` reads one block of the rows that are not read. -/
theorem fetchColumns_of_unread (anew : reader.Anew cfg isMultiByte)
    (unread : reader.unread cfg isMultiByte = some rows)
    (fetchable : reader.kind.isFetchable = true) (n : Int) :
    ∃ after, reader.fetchColumns cfg isMultiByte n = some (blockOf n rows, after) ∧
      after.ahead = reader.ahead ∧ after.Anew cfg isMultiByte ∧
      after.following cfg isMultiByte ResType.isFetchable = some (restOf n rows) := by
  obtain ⟨after, fetched, ahead, still, left⟩ := fetchMany_of_unread anew unread fetchable
    (if n > 0 then n.toNat else reader.current.rows.length + 1)
  refine ⟨after, ?_, ahead, still, ?_⟩
  · rw [fetchColumns, fetched, blockOf]
    split
    · rfl
    · rw [List.take_of_length_le]
      rw [Reader.unread] at unread
      split at unread
      · cases unread
      · rw [length_readOwn unread]
        exact Nat.le_succ _
  · rw [left, restOf]
    split
    · rfl
    · rw [List.drop_of_length_le]
      rw [Reader.unread] at unread
      split at unread
      · cases unread
      · rw [length_readOwn unread]
        exact Nat.le_succ _

/-! ### A row fetched ahead belongs to the result that is read -/

theorem ready_announce (ready : reader.Ready) : reader.announce.Ready := by
  intro isSome
  rw [ahead_announce] at isSome
  have expected := ready isSome
  rw [announce_of_expectRow expected]
  exact expected

theorem ready_next {more : Bool} (ready : reader.Ready)
    (moved : reader.next cfg isMultiByte = some (more, after)) : after.Ready := by
  rw [next] at moved
  split at moved
  · rename_i expects
    obtain ⟨⟨row, middle⟩, fetched, same⟩ := Option.map_eq_some_iff.mp moved
    cases same
    intro isSome
    have kind : middle.kind = reader.announce.kind := by
      rw [fetch] at fetched
      split at fetched
      · cases fetched
      · split at fetched
        · cases fetched
          cases isSome
        · obtain ⟨_, -, same⟩ := Option.map_eq_some_iff.mp fetched
          cases same
          rfl
    exact (congrArg Statement.expectRow kind).trans expects.1
  · cases moved
    exact ready_announce ready

theorem ready_passes {count : Nat} {delivered : List Hash} (ready : reader.Ready)
    (passed : reader.passes cfg isMultiByte count = some (delivered, after)) : after.Ready := by
  have none : Reader.Ready { reader with ahead := none } := nofun
  induction count generalizing reader delivered with
  | zero =>
    cases passed
    exact ready
  | succ count inductionHypothesis =>
    rw [passes] at passed
    split at passed
    · cases passed
    · rename_i moved
      cases passed
      exact ready_next none moved
    · rename_i moved
      obtain ⟨⟨rest, last⟩, isRest, same⟩ := Option.map_eq_some_iff.mp passed
      cases same
      exact inductionHypothesis (ready_next none moved) isRest nofun

/-! ### Nothing is delivered out of turn -/

theorem announce_of_isFetchable (fetchable : reader.kind.isFetchable = true) :
    reader.announce = reader := by
  refine announce_of_stays fun waits => ?_
  rcases waits with kind | kind | kind <;> rw [kind] at fetchable <;> cases fetchable

/-- The rows that are not read, of a result that is read. -/
theorem unread_of_left (fetchable : reader.kind.isFetchable = true)
    (left : reader.left cfg isMultiByte ResType.isFetchable = some rows) :
    ∃ rest, reader.unread cfg isMultiByte = some rest ∧ rows = reader.ahead.toList ++ rest := by
  obtain ⟨rest, following, rfl⟩ := Option.map_eq_some_iff.mp left
  rw [Reader.following, if_pos fetchable] at following
  exact ⟨rest, following, rfl⟩

/-- `next` leaves the same rows to deliver. -/
theorem next_of_left (fetchable : reader.kind.isFetchable = true)
    (anew : reader.Anew cfg isMultiByte)
    (leftBefore : reader.left cfg isMultiByte ResType.isFetchable = some rows) :
    ∃ more after, reader.next cfg isMultiByte = some (more, after) ∧
      after.left cfg isMultiByte ResType.isFetchable = some rows ∧
      (more = true → after.kind.isFetchable = true) ∧ after.Anew cfg isMultiByte := by
  rw [next, announce_of_isFetchable fetchable]
  split
  · rename_i expects
    obtain ⟨rest, unread, rfl⟩ := unread_of_left fetchable leftBefore
    obtain ⟨middle, fetched, -, still, atEnd, atRow⟩ := fetch_of_unread anew unread
    rw [fetched, Option.map_some, Option.isNone_iff_eq_none.mp expects.2]
    refine ⟨_, _, rfl, ?_, ?_, still⟩
    · cases rest with
      | nil =>
        rw [left, following, atEnd rfl]
        rfl
      | cons row rest =>
        obtain ⟨kind, unread⟩ := atRow (List.cons_ne_nil _ _)
        rw [left, following, kind, if_pos fetchable]
        exact congrArg (Option.map _) unread
    · intro more
      have some : rest ≠ [] := by
        rintro rfl
        cases more
      exact (congrArg ResType.isFetchable (atRow some).1).trans fetchable
  · exact ⟨_, _, rfl, leftBefore, fun _ => fetchable, anew⟩

/-- The passes of `fetch_rows` deliver the first rows that are left. -/
theorem passes_of_left (fetchable : reader.kind.isFetchable = true)
    (anew : reader.Anew cfg isMultiByte)
    (leftBefore : reader.left cfg isMultiByte ResType.isFetchable = some rows) (count : Nat) :
    ∃ delivered after rest, reader.passes cfg isMultiByte count = some (delivered, after) ∧
      after.left cfg isMultiByte ResType.isFetchable = some rest ∧ delivered ++ rest = rows ∧
      after.Anew cfg isMultiByte := by
  induction count generalizing reader rows with
  | zero => exact ⟨[], reader, rows, rfl, leftBefore, rfl, anew⟩
  | succ count inductionHypothesis =>
    obtain ⟨rest, following, rfl⟩ := Option.map_eq_some_iff.mp leftBefore
    have leftNone : Reader.left cfg isMultiByte ResType.isFetchable { reader with ahead := none } =
        some rest := congrArg (Option.map (List.append [])) following
    obtain ⟨more, middle, moved, leftMiddle, fetchable', still⟩ :=
      @next_of_left _ _ { reader with ahead := none } _ fetchable anew leftNone
    rw [passes, moved]
    cases more with
    | false => exact ⟨_, middle, rest, rfl, leftMiddle, rfl, still⟩
    | true =>
      obtain ⟨delivered, last, rest', passed, leftLast, same, anewLast⟩ :=
        inductionHypothesis (fetchable' rfl) still leftMiddle
      dsimp only
      rw [passed]
      exact ⟨_, last, rest', rfl, leftLast, by rw [List.append_assoc, same], anewLast⟩

/-- A call that is made with no row fetched ahead where it fetches columns delivers the first rows
that are left. -/
theorem mix_of_left (fetchable : reader.kind.isFetchable = true)
    (anew : reader.Anew cfg isMultiByte)
    (leftBefore : reader.left cfg isMultiByte ResType.isFetchable = some rows) {call : FetchCall}
    {delivered : List Hash} (unbuffered : call.Unbuffered reader)
    (mixed : reader.mix cfg isMultiByte call = some (delivered, after)) :
    after.Anew cfg isMultiByte ∧ ∃ rest,
      after.left cfg isMultiByte ResType.isFetchable = some rest ∧ delivered ++ rest = rows := by
  match call with
  | .rows .next =>
    obtain ⟨more, last, moved, leftAfter, -, still⟩ := next_of_left fetchable anew leftBefore
    rw [mix, moved] at mixed
    cases mixed
    exact ⟨still, rows, leftAfter, rfl⟩
  | .rows .fetchRow =>
    obtain ⟨rest, following, rfl⟩ := Option.map_eq_some_iff.mp leftBefore
    cases mixed
    exact ⟨anew, rest, congrArg (Option.map (List.append [])) following, rfl⟩
  | .rows (.fetchRows n) =>
    obtain ⟨delivered', last, rest, passed, leftAfter, same, still⟩ :=
      passes_of_left fetchable anew leftBefore (if n > 0 then n.toNat + 1 else reader.rowsLeft + 1)
    rw [mix, fetchRows, passed] at mixed
    cases mixed
    exact ⟨still, rest, leftAfter, same⟩
  | .columns n =>
    obtain ⟨rest, unread, rfl⟩ := unread_of_left fetchable leftBefore
    obtain ⟨last, fetched, ahead, still, leftAfter⟩ :=
      fetchColumns_of_unread anew unread fetchable n
    rw [mix, fetched] at mixed
    cases mixed
    have none : reader.ahead = none := unbuffered
    refine ⟨still, restOf n rest, ?_, ?_⟩
    · rw [left, leftAfter, ahead, none]
      rfl
    · rw [blockOf_append_restOf, none]
      rfl

theorem ready_mix {call : FetchCall} {delivered : List Hash} (ready : reader.Ready)
    (unbuffered : call.Unbuffered reader)
    (mixed : reader.mix cfg isMultiByte call = some (delivered, after)) : after.Ready := by
  match call with
  | .rows .next =>
    obtain ⟨⟨more, last⟩, moved, same⟩ := Option.map_eq_some_iff.mp mixed
    cases same
    exact ready_next ready moved
  | .rows .fetchRow =>
    cases mixed
    exact nofun
  | .rows (.fetchRows n) => exact ready_passes ready mixed
  | .columns n =>
    have none : reader.ahead = none := unbuffered
    rw [Ready, (fetchMany_frame mixed).1, none]
    exact nofun

end Mixing

end Reader

/-! ### Mixes of calls -/

section Calls

variable (cfg : Config Playing) (statement : StatementId)

/-- The rows a call delivers. -/
def FetchCall.run : FetchCall → Driver Playing (List Hash)
  | rows call => call.run cfg statement
  | columns n => do
    let h ← DBModuleWrap.fetchColumns cfg statement n
    pure (rowsOf (h.getD []))

/-- The rows delivered, and the states reached, by calls that each meet a condition and return
without an exception. -/
inductive Mixes (allowed : FetchCall → Reader → Prop) (start : World Playing) :
    List Hash → World Playing → Prop where
  | start : Mixes allowed start [] start
  | call {delivered rows : List Hash} {world after : World Playing} {call : FetchCall}
      {reader : Reader} (mixes : Mixes allowed start delivered world)
      (state : world.reader statement = some reader) (meets : allowed call reader)
      (ran : call.run cfg statement world = (.ok rows, after)) (quiet : after.xsink = []) :
      Mixes allowed start (delivered ++ rows) after

/-- The result that is read is not read to its end, or a row of it is still fetched ahead. -/
def Reader.IsCurrent (reader : Reader) : Prop := reader.kind.isFetchable = true ∨
    reader.ahead.isSome

/-- `fetch_columns` returns one block of the rows that are not delivered, as a hash of equally long
lists, and leaves the others. -/
def TakesColumns (n : Int) (rows : List Hash) (world : World Playing) : Prop :=
  ∃ h after reader, DBModuleWrap.fetchColumns cfg statement n world = (.ok (some h), after) ∧
    h = asColumns (blockOf n rows) ∧
    (∀ entry ∈ h, elementCount entry.2 = (blockOf n rows).length) ∧ after.xsink = [] ∧
    after.reader statement = some reader ∧
    reader.left cfg world.connection.enc.isMultiByte ResType.isFetchable = some (restOf n rows)

end Calls

section Mixed

variable {cfg : Config Playing} {isMultiByte : Bool} {statement : StatementId}
  {world after executed : World Playing} {reader : Reader}

/-- A call delivers the rows the reader delivers. -/
theorem simulates_mix (plays : cfg.lib = CtLib.play)
    (follows : Follows cfg isMultiByte statement reader world) (call : FetchCall) :
    Simulates cfg isMultiByte statement (call.run cfg statement)
      (reader.mix cfg isMultiByte call) world := by
  match call with
  | .rows .next =>
    exact simulates_map (fun _ => []) (simulates_run follows (simulates_next plays follows))
  | .rows .fetchRow =>
    exact simulates_map Option.toList (simulates_run follows (simulates_fetchRow follows))
  | .rows (.fetchRows n) =>
    have fetches : Simulates cfg isMultiByte statement (DBModuleWrap.fetchRows cfg statement n) _
        world := simulates_run follows (simulates_fetchRows plays follows n)
    have simulates := simulates_map (fun rows => rows.getD []) fetches
    show Simulates _ _ _ _ (reader.fetchRows cfg isMultiByte n) _
    cases fetched : reader.fetchRows cfg isMultiByte n with
    | none =>
      rw [fetched] at simulates
      exact simulates
    | some result =>
      rw [fetched] at simulates
      exact simulates
  | .columns n =>
    have fetches : Simulates cfg isMultiByte statement (DBModuleWrap.fetchColumns cfg statement n) _
        world := simulates_run follows (simulates_fetchColumns plays follows n)
    have simulates := simulates_map (fun h => rowsOf (h.getD [])) fetches
    show Simulates _ _ _ _ (reader.fetchColumns cfg isMultiByte n) _
    cases fetched : reader.fetchColumns cfg isMultiByte n with
    | none =>
      rw [fetched] at simulates
      exact simulates
    | some result =>
      have columns : (reader.bound cfg isMultiByte).columns ≠ [] := by
        intro none
        rw [Reader.fetchColumns_noColumns none] at fetched
        cases fetched
      have nonempty : columnKeys none (reader.bound cfg isMultiByte).columns ≠ [] := by
        rw [← List.length_pos_iff, columnKeys_length]
        exact List.length_pos_iff.mpr columns
      have same := rowsOf_asColumns nonempty (Reader.keys_fetchMany fetched)
      rw [fetched, Option.map_some, Option.map_some] at simulates
      dsimp only [Option.getD_some] at simulates
      rw [same] at simulates
      exact simulates

/-- What the calls of the reader keep, of what they have delivered and of its state, holds wherever
such calls lead. -/
theorem follows_of_mixes {allowed : FetchCall → Reader → Prop} (plays : cfg.lib = CtLib.play)
    (invariant : List Hash → Reader → Prop)
    (kept : ∀ {call reader after delivered rows}, allowed call reader → invariant delivered reader →
      reader.mix cfg isMultiByte call = some (rows, after) → invariant (delivered ++ rows) after)
    (follows : Follows cfg isMultiByte statement reader executed) (holds : invariant [] reader)
    {delivered : List Hash} (mixes : Mixes cfg statement allowed executed delivered world) :
    ∃ reader', Follows cfg isMultiByte statement reader' world ∧ invariant delivered reader' := by
  induction mixes with
  | start => exact ⟨reader, follows, holds⟩
  | call _ state meets ran quiet inductionHypothesis =>
    rename_i rows middle after call _ _
    obtain ⟨reader', followsMiddle, holdsMiddle⟩ := inductionHypothesis
    obtain rfl := Option.some_inj.mp (followsMiddle.reader_eq.symm.trans state)
    have simulates := simulates_mix plays followsMiddle call
    cases mixed : reader'.mix cfg isMultiByte call with
    | none =>
      rw [mixed, Simulates, wpOk, wp, ran] at simulates
      exact absurd quiet simulates
    | some result =>
      obtain ⟨_, last⟩ := result
      rw [mixed, Simulates, wp, ran] at simulates
      obtain ⟨rfl, followsLast⟩ := simulates
      exact ⟨last, followsLast, kept meets holdsMiddle mixed⟩

/-- With no row fetched ahead, `fetch_columns` takes its rows from those that are not read. -/
theorem takesColumns_of_left {rows : List Hash} (plays : cfg.lib = CtLib.play)
    (follows : Follows cfg world.connection.enc.isMultiByte statement reader world)
    (fetchable : reader.kind.isFetchable = true) (none : reader.ahead = none)
    (anew : reader.Anew cfg world.connection.enc.isMultiByte)
    (left : reader.left cfg world.connection.enc.isMultiByte ResType.isFetchable = some rows)
    (n : Int) : TakesColumns cfg statement n rows world := by
  obtain ⟨rest, unread, rfl⟩ := Reader.unread_of_left fetchable left
  rw [none, Option.toList_none, List.nil_append]
  obtain ⟨last, fetched, ahead, -, leftAfter⟩ :=
    Reader.fetchColumns_of_unread anew unread fetchable n
  have simulates : Simulates cfg world.connection.enc.isMultiByte statement
      (DBModuleWrap.fetchColumns cfg statement n) _ world :=
    simulates_run follows (simulates_fetchColumns plays follows n)
  have leaves : last.left cfg world.connection.enc.isMultiByte ResType.isFetchable =
      some (restOf n rest) := by
    rw [Reader.left, leftAfter, ahead, none]
    rfl
  rw [fetched] at simulates
  obtain ⟨_, after, ran, rfl, followsLast⟩ := returns_of_wp simulates
  exact ⟨_, after, last, ran, rfl, elementCount_asColumns _, followsLast.quiet,
    followsLast.reader_eq, leaves⟩

end Mixed

/-! ### Row and column fetches together -/

end Sybase
