/-
This file defines how fetched rows become Qore values. A row is read as a hash
with a key for each column, or its values are appended to the lists of a hash of
columns. Both forms name the columns by the same rule: the name in lower case, or
the placeholder or the number of a column without a name, with a numbered suffix
where the key is there already.
-/

import SybaseDriver.Command
import SybaseDriver.FreshName

namespace Sybase

namespace Command

open Program Connection FreshName

variable {σ : Type} (cfg : Config σ)

/-! ### Keys -/

/-- `get_placeholder_at`. -/
def getPlaceholderAt (ph : Option (List Text)) (index : Nat) : Text :=
  match ph with
  | none => decimal index
  | some placeholders =>
    match placeholders[index]? with
    | none => decimal index
    | some [] => decimal index
    | some placeholder => placeholder

/-- `std::transform` with `tolower`. -/
def toLower (name : Text) : Text := name.map Char.toLower

/-- The name of a column before it is made unique. -/
def columnName (ph : Option (List Text)) (datafmt : Datafmt) (index : Nat) : Text :=
  if datafmt.name.isEmpty then getPlaceholderAt ph index else toLower datafmt.name

/-- The key `%s_%d`. -/
def suffixed (name : Text) (num : Nat) : Text := name ++ text "_" ++ decimal num

/-- `*hah`: whether the value of a key tests as present. -/
def hasValue (h : Hash) (key : Text) : Bool := (Hash.getKeyValue h key).isPresent

/-- The key a `HashAssignmentHelper` ends up with. The bound of the search exceeds the number of
keys there are. -/
def uniqueKey (h : Hash) (name : Text) : Option Text :=
  if hasValue h name then
    (findFree (fun num => hasValue h (suffixed name num)) (h.length + 1) 1).map (suffixed name)
  else some name

/-- `HashAssignmentHelper::assign` under a unique key. -/
def assign (h : Hash) (name : Text) (value : QoreValue) : Driver σ Hash :=
  match uniqueKey h name with
  | some key => pure (Hash.setKeyValue h key value)
  | none => halt .exhausted

/-! ### Rows -/

/-- The loop of `command::output_buffers_to_hash`, from the column with an index. -/
def outputBuffersToHashFrom (ph : Option (List Text)) :
    List Datafmt → List OutputValueBuffer → Nat → Hash → Driver σ (Option Hash)
  | [], _, _, result => pure (some result)
  | datafmt :: columns, buffer :: buffers, index, result => do
    let value ← getValue cfg datafmt buffer.cell
    if ← isException then pure none
    else do
      let result ← assign result (columnName ph datafmt index) value
      outputBuffersToHashFrom ph columns buffers (index + 1) result
  | _ :: _, [], _, _ => halt .undefined

/-- `command::output_buffers_to_hash`. -/
def outputBuffersToHash (id : CommandId) (ph : Option (List Text)) : Driver σ (Option Hash) := do
  let cmd ← getCommand id
  outputBuffersToHashFrom cfg ph cmd.colinfo.datafmt cmd.outBuffers 0 []

/-- `command::fetch_row`. -/
def fetchRow (id : CommandId) (ph : Option (List Text)) : Driver σ (Option Hash) := do
  if (← ensureColinfo cfg id) ≠ 0 then pure none
  else if ← fetchRowIntoBuffers cfg id then outputBuffersToHash cfg id ph
  else pure none

/-- The value of the rows read: NOTHING for no row, the row itself for one, else their list. -/
def rowsValue : List Hash → QoreValue
  | [] => .nothing
  | [row] => .hash row
  | rows => .list (rows.map .hash)

/-- One pass of the loop of `command::read_rows`, with the rows read so far. -/
def readRowsOnce (id : CommandId) (ph : Option (List Text)) (singleRow : Bool)
    (rows : List Hash) : Driver σ (List Hash ⊕ QoreValue) := do
  if ← fetchRowIntoBuffers cfg id then do
    let row ← outputBuffersToHash cfg id ph
    if ← isException then pure (.inr .nothing)
    else if singleRow ∧ rows.length = 1 then do
      raiseException "DBI-SELECT-ROW-ERROR" "SQL passed to selectRow() returned more than 1 row"
      pure (.inr .nothing)
    else pure (.inl (rows ++ row.toList))
  else pure (.inr (rowsValue rows))

/-- The loop of `command::read_rows`. -/
def readRowsLoop (id : CommandId) (ph : Option (List Text)) (singleRow : Bool) :
    Driver σ QoreValue :=
  iterate .exhausted (readRowsOnce cfg id ph singleRow) cfg.fuel []

/-- `command::read_rows` for a list. -/
def readRows (id : CommandId) (ph : Option (List Text)) (singleRow : Bool) :
    Driver σ QoreValue := do
  if (← ensureColinfo cfg id) ≠ 0 then pure .nothing
  else readRowsLoop cfg id ph singleRow

/-! ### Columns -/

/-- The loop of `command::setupColumns`, from the column with an index. -/
def setupColumnsFrom (ph : Option (List Text)) : List Datafmt → Nat → Hash → Driver σ Hash
  | [], _, h => pure h
  | datafmt :: columns, index, h => do
    let h ← assign h (columnName ph datafmt index) (.list [])
    setupColumnsFrom ph columns (index + 1) h

/-- `command::setupColumns`. -/
def setupColumns (id : CommandId) (ph : Option (List Text)) (h : Hash) : Driver σ Hash := do
  let cmd ← getCommand id
  setupColumnsFrom ph cmd.colinfo.datafmt 0 h

/-- Set up the columns under a condition. -/
def setupColumnsIf (condition : Bool) (id : CommandId) (ph : Option (List Text)) (h : Hash) :
    Driver σ Hash :=
  if condition then setupColumns id ph h else pure h

/-- The loop of `command::append_buffers_to_list`: the values go to the lists of a hash, in its
order. -/
def appendFrom : List Datafmt → List OutputValueBuffer → Hash → Driver σ (Option Hash)
  | [], _, h => pure (some h)
  | datafmt :: columns, buffer :: buffers, (key, .list elements) :: h => do
    let value ← getValue cfg datafmt buffer.cell
    if ← isException then pure none
    else do
      let appended ← appendFrom columns buffers h
      pure (appended.map fun rest => (key, .list (elements ++ [value])) :: rest)
  | _, _, _ => halt .undefined

/-- `command::append_buffers_to_list`. -/
def appendBuffersToList (id : CommandId) (h : Hash) : Driver σ (Option Hash) := do
  let cmd ← getCommand id
  appendFrom cfg cmd.colinfo.datafmt cmd.outBuffers h

/-- One pass of the loop of `command::read_cols`, with the rows left to read and the columns so
far. -/
def readColsOnce (id : CommandId) (ph : Option (List Text)) :
    Int × Hash → Driver σ ((Int × Hash) ⊕ Option Hash) :=
  fun (cnt, h) => do
    if ← fetchRowIntoBuffers cfg id then do
      let h ← setupColumnsIf h.isEmpty id ph h
      match ← appendBuffersToList cfg id h with
      | none => pure (.inr none)
      | some h => if cnt - 1 = 0 then pure (.inr (some h)) else pure (.inl (cnt - 1, h))
    else pure (.inr (some h))

/-- The loop of `command::read_cols`. -/
def readColsLoop (id : CommandId) (ph : Option (List Text)) (cnt : Int) (h : Hash) :
    Driver σ (Option Hash) :=
  iterate .exhausted (readColsOnce cfg id ph) cfg.fuel (cnt, h)

/-- `command::read_cols`. -/
def readCols (id : CommandId) (ph : Option (List Text)) (cnt : Int) (cols : Bool) :
    Driver σ (Option Hash) := do
  if (← ensureColinfo cfg id) ≠ 0 then pure none
  else if ← isException then pure none
  else do
    let h ← setupColumnsIf cols id ph []
    readColsLoop cfg id ph cnt h

/-- The value of a hash that may be missing. -/
def hashValue : Option Hash → QoreValue
  | some h => .hash h
  | none => .nothing

/-- `command::read_rows`, which returns a list or a hash of columns. -/
def readRowsOrCols (id : CommandId) (ph : Option (List Text)) (list cols singleRow : Bool) :
    Driver σ QoreValue := do
  if (← ensureColinfo cfg id) ≠ 0 then pure .nothing
  else if list then readRows cfg id ph singleRow
  else do
    let h ← readCols cfg id ph (-1) cols
    pure (hashValue h)

end Command

end Sybase
