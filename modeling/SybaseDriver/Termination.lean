/-
This file proves that reading ends on every finite script. Every pass of a loop of
reading takes an answer from the script, so no loop reaches a bound that exceeds the
length of the script; and a reconnect nests another one only after answers were
taken. What is left is that a run returns, throws, reads a value whose length does
not fit its type, or is terminated by an error that leaves the destructor of a
command, whose `ct_cancel` failed.
-/

import SybaseDriver.Columns
import SybaseDriver.Failure

namespace Sybase

open Program Connection Command FreshName

/-! ### Finite scripts -/

/-- The driver runs on a ct-lib that gives the replies of a list. -/
def Config.IsScripted (cfg : Config (List Reply)) : Prop :=
  ∃ activeTransaction, cfg.lib = CtLib.scripted activeTransaction

variable {cfg : Config (List Reply)} {world middle after : World (List Reply)}

theorem Config.IsScripted.length_le (scripted : cfg.IsScripted) (call : CtCall)
    (env : List Reply) : (cfg.lib.reply call env).2.length ≤ env.length := by
  obtain ⟨activeTransaction, lib⟩ := scripted
  rw [lib, CtLib.reply]
  split
  · exact Nat.le_refl _
  · cases env with
    | nil => exact Nat.le_refl _
    | cons reply rest => exact Nat.le_succ _

/-- A call that is answered otherwise than with a failure takes a reply of the list. -/
theorem Config.IsScripted.length_lt (scripted : cfg.IsScripted) (call : CtCall)
    (env : List Reply) (answered : (cfg.lib.reply call env).1.code ≠ .fail) :
    (cfg.lib.reply call env).2.length < env.length := by
  obtain ⟨activeTransaction, lib⟩ := scripted
  rw [lib, CtLib.reply] at answered ⊢
  split at answered
  · exact absurd rfl answered
  · rename_i notNull
    rw [if_neg notNull]
    cases env with
    | nil => exact absurd rfl answered
    | cons reply rest => exact Nat.lt_succ_self _

/-- A value whose length does not fit the type of its column. -/
def Entry.IsUndefinedValue {σ : Type} (cfg : Config σ) (entry : Entry) : Prop :=
  ∃ datafmt cell, entry.event = .value datafmt cell ∧ decode cfg datafmt cell = .undefined

/-- The process stops at a value whose length does not fit. -/
def StopsAtValue (cfg : Config (List Reply)) (reason : Halt) (after : World (List Reply)) : Prop :=
  reason = .undefined ∧ ∃ entry log, after.log = entry :: log ∧ entry.IsUndefinedValue cfg

/-- Anything may be thrown. -/
abbrev anyThrow : Error → World (List Reply) → Prop := fun _ _ => True

/-! ### Values -/

/-- A change of the log and of the sink. -/
def Noted (world after : World (List Reply)) : Prop :=
  ∃ log xsink, after = { world with log := log, xsink := xsink }

theorem Noted.refl (world : World (List Reply)) : Noted world world := ⟨world.log, world.xsink, rfl⟩

theorem Noted.trans (first : Noted world middle) (second : Noted middle after) :
    Noted world after := by
  obtain ⟨log, xsink, rfl⟩ := first
  obtain ⟨log', xsink', rfl⟩ := second
  exact ⟨log', xsink', rfl⟩

theorem wp_getValue_ends (datafmt : Datafmt) (cell : Cell) (world : World (List Reply)) :
    wp (getValue cfg datafmt cell) (fun _ after => Noted world after) anyThrow (StopsAtValue cfg)
      world := by
  rw [getValue, wp_bind, wp_modify]
  cases decoded : decode cfg datafmt cell with
  | value value => exact ⟨_, _, rfl⟩
  | exception raised => exact ⟨_, _, rfl⟩
  | undefined => exact ⟨rfl, _, _, rfl, datafmt, cell, rfl, decoded⟩

/-- The search for the key of a column ends. -/
theorem uniqueKey_isSome (h : Hash) (name : Text) : (uniqueKey h name).isSome := by
  have named : ∀ key, hasValue h key = true → key ∈ Hash.keys h := by
    intro key present
    by_contra absent
    have none : List.lookup key h = none := by
      rw [List.lookup_eq_none_iff]
      intro entry member
      exact bne_iff_ne.mpr fun same => absent (List.mem_map.mpr ⟨entry, member, same.symm⟩)
    rw [hasValue, Hash.getKeyValue, none] at present
    exact Bool.noConfusion present
  rw [uniqueKey]
  split
  · rw [Option.isSome_map]
    exact findFree_isSome (suffixed_injective name) (fun number => named _)
      (by rw [Hash.keys, List.length_map]; exact Nat.lt_succ_self _) 1
  · rfl

theorem assign_returns {σ : Type} (h : Hash) (name : Text) (value : QoreValue) :
    ∃ assigned, (assign h name value : Driver σ Hash) = pure assigned := by
  obtain ⟨key, found⟩ := Option.isSome_iff_exists.mp (uniqueKey_isSome h name)
  rw [assign, found]
  exact ⟨_, rfl⟩

theorem wp_outputBuffersToHashFrom_ends (ph : Option (List Text)) {columns : List Datafmt}
    {buffers : List OutputValueBuffer} (length : buffers.length = columns.length) (index : Nat)
    (result : Hash) (world : World (List Reply)) :
    wp (outputBuffersToHashFrom cfg ph columns buffers index result)
      (fun _ after => Noted world after) anyThrow (StopsAtValue cfg) world := by
  induction columns generalizing buffers index result world with
  | nil => exact Noted.refl world
  | cons datafmt columns inductionHypothesis =>
    obtain ⟨buffer, buffers, rfl⟩ := List.exists_cons_of_length_eq_add_one length
    rw [outputBuffersToHashFrom, wp_bind]
    refine wp_mono_ok (wp_getValue_ends datafmt buffer.cell world) fun value after noted => ?_
    rw [wp_bind, wp_isException]
    split
    · exact noted
    · obtain ⟨assigned, same⟩ := assign_returns (σ := List Reply) result
        (columnName ph datafmt index) value
      rw [same]
      exact wp_mono_ok (inductionHypothesis (Nat.succ.inj length) _ assigned after)
        fun _ _ rest => noted.trans rest

/-- A hash of columns: a list for each of them. -/
def HasLists (columns : List Datafmt) (h : Hash) : Prop :=
  h.length = columns.length ∧ ∀ entry ∈ h, ∃ elements, entry.2 = .list elements

theorem hasLists_setupColumns (ph : Option (List Text)) (columns : List Datafmt) :
    HasLists columns (columnsFrom [] (columnKeys ph columns) 0) := by
  have lists : ∀ keys index, (columnsFrom [] keys index).length = keys.length ∧
      ∀ entry ∈ columnsFrom [] keys index, ∃ elements, entry.2 = .list elements := by
    intro keys
    induction keys with
    | nil => exact fun _ => ⟨rfl, fun _ member => absurd member List.not_mem_nil⟩
    | cons key keys inductionHypothesis =>
      intro index
      obtain ⟨length, rest⟩ := inductionHypothesis (index + 1)
      refine ⟨congrArg Nat.succ length, fun entry member => ?_⟩
      rcases List.mem_cons.mp member with rfl | later
      · exact ⟨_, rfl⟩
      · exact rest entry later
  obtain ⟨length, elements⟩ := lists (columnKeys ph columns) 0
  exact ⟨length.trans (columnKeys_length ph columns), elements⟩

theorem wp_appendFrom_ends {columns : List Datafmt} {buffers : List OutputValueBuffer} {h : Hash}
    (length : buffers.length = columns.length) (lists : HasLists columns h)
    (world : World (List Reply)) :
    wp (appendFrom cfg columns buffers h)
      (fun appended after => Noted world after ∧ ∀ rows, appended = some rows →
        HasLists columns rows)
      anyThrow (StopsAtValue cfg) world := by
  induction columns generalizing buffers h world with
  | nil =>
    refine ⟨Noted.refl world, ?_⟩
    rintro rows same
    cases same
    exact lists
  | cons datafmt columns inductionHypothesis =>
    obtain ⟨buffer, buffers, rfl⟩ := List.exists_cons_of_length_eq_add_one length
    obtain ⟨⟨key, value⟩, h, rfl⟩ := List.exists_cons_of_length_eq_add_one lists.1
    obtain ⟨elements, rfl⟩ : ∃ elements, value = .list elements := lists.2 _ List.mem_cons_self
    have rest : HasLists columns h :=
      ⟨Nat.succ.inj lists.1, fun entry member => lists.2 entry (List.mem_cons_of_mem _ member)⟩
    rw [appendFrom, wp_bind]
    refine wp_mono_ok (wp_getValue_ends datafmt buffer.cell world) fun value after noted => ?_
    rw [wp_bind, wp_isException]
    split
    · exact ⟨noted, by simp⟩
    · rw [wp_bind]
      refine wp_mono_ok (inductionHypothesis (Nat.succ.inj length) rest after) ?_
      rintro appended last ⟨noted', later⟩
      refine ⟨noted.trans noted', fun rows same => ?_⟩
      obtain ⟨more, isSome, rfl⟩ := Option.map_eq_some_iff.mp same
      obtain ⟨length', lists'⟩ := later more isSome
      refine ⟨congrArg Nat.succ length', fun entry member => ?_⟩
      rcases List.mem_cons.mp member with rfl | inRest
      · exact ⟨_, rfl⟩
      · exact lists' entry inRest

/-! ### The command that is read -/

/-- There is a command with an identity, it holds its handle, and its fields are in some state. -/
def Held (id : CommandId) (fields : Command → Prop) (world : World (List Reply)) : Prop :=
  ∃ cmd, world.commands id = some cmd ∧ cmd.mCmd.isSome ∧ fields cmd

/-- Where the columns are described there is a buffer for each of them. -/
def Fits (cmd : Command) : Prop :=
  cmd.colinfo.dirty = false → cmd.outBuffers.length = cmd.colinfo.datafmt.length

variable {id : CommandId} {fields fields' : Command → Prop}

namespace Held

theorem mono (held : Held id fields world) (weaken : ∀ cmd, fields cmd → fields' cmd) :
    Held id fields' world :=
  let ⟨cmd, same, handle, holds⟩ := held
  ⟨cmd, same, handle, weaken cmd holds⟩

theorem of_commands (held : Held id fields world) (same : after.commands = world.commands) :
    Held id fields after := by
  rwa [Held, same]

theorem noted (held : Held id fields world) (noted : Noted world after) : Held id fields after := by
  obtain ⟨log, xsink, rfl⟩ := noted
  exact held

theorem answered (held : Held id fields world) (lib : CtLib (List Reply)) (site : Site)
    (call : CtCall) : Held id fields (world.answered lib site call) := held

theorem modify (held : Held id fields world) {change : Command → Command}
    (handle : ∀ cmd, (change cmd).mCmd = cmd.mCmd)
    (changed : ∀ cmd, fields cmd → fields' (change cmd)) :
    Held id fields' { world with
      commands := Function.update world.commands id ((world.commands id).map change) } := by
  obtain ⟨cmd, same, isSome, holds⟩ := held
  exact ⟨change cmd, by simp [same], by rwa [handle], changed cmd holds⟩

/-- Reading a command that is there. -/
theorem wp_getCommand (held : Held id fields world)
    {onCommand : Command → World (List Reply) → Prop}
    {onThrow : Error → World (List Reply) → Prop} {onHalt : Halt → World (List Reply) → Prop}
    (read : ∀ cmd, world.commands id = some cmd → cmd.mCmd.isSome → fields cmd →
      onCommand cmd world) :
    wp (getCommand id) onCommand onThrow onHalt world := by
  obtain ⟨cmd, same, handle, holds⟩ := held
  exact (wp_getCommand_some same).mpr (read cmd same handle holds)

end Held

theorem Noted.env_eq (noted : Noted world after) : after.env = world.env := by
  obtain ⟨log, xsink, rfl⟩ := noted
  rfl

theorem storeCells_length (buffers : List OutputValueBuffer) (cells : List Cell) :
    (storeCells buffers cells).length = buffers.length := by
  induction buffers generalizing cells with
  | nil => cases cells <;> rfl
  | cons buffer buffers inductionHypothesis =>
    cases cells with
    | nil => rfl
    | cons cell cells => exact congrArg Nat.succ (inductionHypothesis cells)

section Reading

variable (scripted : cfg.IsScripted)
include scripted

theorem wp_getColumnCount_ends (held : Held id fields world) :
    wp (getColumnCount cfg id) (fun count after => Held id fields after ∧ 0 < count ∧
      after.env.length < world.env.length) anyThrow (StopsAtValue cfg) world := by
  rw [getColumnCount, wp_bind]
  refine held.wp_getCommand fun cmd _ _ _ => ?_
  rw [wp_bind, wp_ctCall, wp_bind, wp_when, wp_doException]
  refine ⟨fun _ => trivial, fun succeeded => ?_⟩
  rw [wp_bind, wp_when, wp_doException]
  refine ⟨fun _ => trivial, fun positive => ⟨held, by omega, scripted.length_lt _ _ ?_⟩⟩
  simp [not_not.mp succeeded]

/-- The columns described so far, to be described again. -/
def Describing (count : Nat) (cmd : Command) : Prop :=
  cmd.colinfo.dirty = true ∧ cmd.colinfo.datafmt.length = count

theorem wp_getRowDescription_ends (remaining index : Nat) {count : Nat}
    (held : Held id (Describing count) world) :
    wp (getRowDescription cfg id remaining index)
      (fun _ after => Held id (Describing (count + remaining)) after ∧
        after.env.length ≤ world.env.length) anyThrow (StopsAtValue cfg) world := by
  induction remaining generalizing index count world with
  | zero => exact ⟨held, Nat.le_refl _⟩
  | succ remaining inductionHypothesis =>
    rw [getRowDescription, wp_bind]
    refine held.wp_getCommand fun cmd _ _ _ => ?_
    rw [wp_bind, wp_ctCall]
    split
    · rw [wp_bind, wp_doException]
      trivial
    · rw [wp_bind, wp_get, wp_bind, wp_modifyCommand]
      refine wp_mono_ok (inductionHypothesis (index + 1) (?_ :
        Held id (Describing (count + 1)) _)) ?_
      · have answered := held.answered cfg.lib .other (.describe cmd.mCmd (index + 1))
        exact answered.modify (fun _ => rfl) fun cmd ⟨dirty, length⟩ => ⟨dirty, by simp [length]⟩
      · rintro _ after ⟨held', fewer⟩
        refine ⟨by rwa [show count + (remaining + 1) = count + 1 + remaining by omega], ?_⟩
        exact Nat.le_trans fewer (scripted.length_le _ _)

/-- The columns are described, and there are some buffers. -/
def BoundOf (colinfo : Columns) (buffers : Nat) (cmd : Command) : Prop :=
  cmd.colinfo = colinfo ∧ cmd.outBuffers.length = buffers

theorem wp_bindColumns_ends {colinfo : Columns} (columns : List Datafmt) (index : Nat)
    {buffers : Nat} (held : Held id (BoundOf colinfo buffers) world) :
    wp (bindColumns cfg id columns index)
      (fun _ after => Held id (BoundOf colinfo (buffers + columns.length)) after ∧
        after.env.length ≤ world.env.length) anyThrow (StopsAtValue cfg) world := by
  induction columns generalizing index buffers world with
  | nil => exact ⟨held, Nat.le_refl _⟩
  | cons datafmt columns inductionHypothesis =>
    rw [bindColumns, wp_bind, wp_modifyCommand, wp_bind]
    have held' : Held id (BoundOf colinfo (buffers + 1)) { world with
        commands := Function.update world.commands id ((world.commands id).map fun cmd =>
          { cmd with outBuffers := cmd.outBuffers ++ [newBuffer datafmt.maxlength] }) } :=
      held.modify (fun _ => rfl) fun cmd ⟨same, length⟩ => ⟨same, by simp [length]⟩
    refine held'.wp_getCommand fun cmd _ _ _ => ?_
    rw [wp_bind, wp_ctCall]
    split
    · rw [wp_bind, wp_doException]
      trivial
    · refine wp_mono_ok (inductionHypothesis (index + 1)
        (held'.of_commands rfl : Held id (BoundOf colinfo (buffers + 1)) _)) ?_
      rintro _ after ⟨bound, fewer⟩
      refine ⟨?_, Nat.le_trans fewer (scripted.length_le _ _)⟩
      rwa [List.length_cons, Nat.add_comm columns.length, ← Nat.add_assoc]

/-- The columns of a command are described and bound. -/
abbrev Loaded (id : CommandId) (columns : List Datafmt) : World (List Reply) → Prop :=
  Held id fun cmd => Described cmd columns

omit scripted in
theorem Described.fits {cmd : Command} {columns : List Datafmt}
    (described : Described cmd columns) :
    Fits cmd := fun _ => by rw [described.buffers, described.colinfo]

/-- Retrieving the columns ends, and takes answers of the script. -/
theorem wp_retrColinfo_ends (held : Held id Fits world) :
    wp (retrColinfo cfg id)
      (fun failed after => Held id Fits after ∧ after.env.length < world.env.length ∧
        (failed = 0 → ∃ columns, columns ≠ [] ∧ Loaded id columns after))
      anyThrow (StopsAtValue cfg) world := by
  rw [retrColinfo, wp_bind]
  refine wp_mono_ok (wp_getColumnCount_ends scripted held)
    fun count counted ⟨held, positive, fewer⟩ => ?_
  rw [wp_bind, wp_isException]
  split
  · exact ⟨held, fewer, fun zero => absurd zero (by decide)⟩
  · rw [wp_bind, wp_modifyCommand, wp_bind]
    refine wp_mono_ok (wp_getRowDescription_ends scripted count 0
      (held.modify (fun _ => rfl) fun _ _ => ⟨rfl, rfl⟩)) fun _ described ⟨held, fewer'⟩ => ?_
    rw [wp_bind]
    refine held.wp_getCommand fun cmd same handle ⟨_, length⟩ => ?_
    have emptied : Held id (BoundOf cmd.colinfo 0) { described with
        commands := Function.update described.commands id ((described.commands id).map fun cmd =>
          { cmd with outBuffers := [] }) } :=
      ⟨{ cmd with outBuffers := [] }, by simp [same], handle, rfl, rfl⟩
    rw [wp_bind, setupOutputBuffers, wp_bind, wp_modifyCommand]
    refine wp_mono_ok (wp_bindColumns_ends scripted cmd.colinfo.datafmt 0 emptied)
      fun _ bound ⟨held, fewer''⟩ => ?_
    rw [wp_bind, wp_modifyCommand]
    have loaded : Loaded id cmd.colinfo.datafmt { bound with
        commands := Function.update bound.commands id ((bound.commands id).map fun cmd =>
          { cmd with colinfo := { cmd.colinfo with dirty := false } }) } :=
      held.modify (fun _ => rfl) fun other ⟨colinfo, buffers⟩ =>
        ⟨by simp [colinfo], by simpa using buffers⟩
    have short : bound.env.length < world.env.length :=
      Nat.lt_of_le_of_lt (Nat.le_trans fewer'' fewer') fewer
    refine ⟨loaded.mono fun _ => Described.fits, short, fun _ => ⟨_, ?_, loaded⟩⟩
    exact List.ne_nil_of_length_pos (by omega)

/-- What holds after a part of reading: the command is there, and answers were taken. -/
def Onward (id : CommandId) (world after : World (List Reply)) : Prop :=
  Held id Fits after ∧ after.env.length < world.env.length

/-- The columns are known, without a call or after some. -/
def Known (id : CommandId) (columns : List Datafmt) (world after : World (List Reply)) : Prop :=
  columns ≠ [] ∧ Loaded id columns after ∧ (after = world ∨ after.env.length < world.env.length)

/-- Ensuring that the columns are known ends. -/
theorem wp_ensureColinfo_ends (held : Held id Fits world) :
    wp (ensureColinfo cfg id)
      (fun failed after => if failed ≠ 0 then Onward id world after
        else ∃ columns, Known id columns world after) anyThrow (StopsAtValue cfg) world := by
  rw [ensureColinfo, wp_bind]
  refine held.wp_getCommand fun cmd same handle fits => ?_
  split
  · refine wp_mono_ok (wp_retrColinfo_ends scripted held) fun failed after
      ⟨held, fewer, loaded⟩ => ?_
    split
    · exact ⟨held, fewer⟩
    · rename_i succeeded
      obtain ⟨columns, nonempty, loaded⟩ := loaded (not_not.mp succeeded)
      exact ⟨columns, nonempty, loaded, .inr fewer⟩
  · rename_i known
    have clean : cmd.colinfo.dirty = false ∧ cmd.colinfo.datafmt ≠ [] := by
      simpa [Columns.needRefresh] using known
    refine ⟨_, clean.2, ⟨cmd, same, handle, ?_, fits clean.1⟩, .inl rfl⟩
    rw [← clean.1]

/-- Fetching a row ends, and takes an answer of the script. -/
theorem wp_fetchRowIntoBuffers_ends {columns : List Datafmt} (loaded : Loaded id columns world) :
    wp (fetchRowIntoBuffers cfg id)
      (fun _ after => Loaded id columns after ∧ after.env.length < world.env.length) anyThrow
      (StopsAtValue cfg) world := by
  rw [fetchRowIntoBuffers, wp_bind]
  refine loaded.wp_getCommand fun cmd _ _ _ => ?_
  have answered := loaded.answered cfg.lib .other (.fetch cmd.mCmd)
  rw [wp_bind, wp_ctCall]
  split
  · rename_i code
    rw [wp_bind, wp_modifyCommand, wp_bind, wp_when, wp_doException]
    refine ⟨fun _ => trivial, fun _ => ⟨?_, scripted.length_lt _ _ (by simp [code])⟩⟩
    refine answered.modify (fun _ => rfl) fun cmd described => ⟨described.colinfo, ?_⟩
    rw [storeCells_length, described.buffers]
  · rename_i code
    rw [wp_bind, wp_modifyCommand]
    exact ⟨answered.modify (fun _ => rfl) fun cmd described => ⟨described.colinfo,
      described.buffers⟩, scripted.length_lt _ _ (by simp [code])⟩
  · rw [wp_bind, wp_doException]
    trivial
  · rw [wp_bind, wp_doException]
    trivial

/-! ### Rows -/

omit scripted in
theorem Known.length_le {columns : List Datafmt} (known : Known id columns world after) :
    after.env.length ≤ world.env.length := by
  obtain ⟨-, -, rfl | fewer⟩ := known
  · exact Nat.le_refl _
  · exact Nat.le_of_lt fewer

omit scripted in
theorem Onward.of_le (onward : Onward id middle after)
    (fewer : middle.env.length ≤ world.env.length) : Onward id world after :=
  ⟨onward.1, Nat.lt_of_lt_of_le onward.2 fewer⟩

omit scripted in
theorem wp_outputBuffersToHash_ends (ph : Option (List Text)) {columns : List Datafmt}
    (loaded : Loaded id columns world) :
    wp (outputBuffersToHash cfg id ph) (fun _ after => Noted world after) anyThrow
      (StopsAtValue cfg) world := by
  rw [outputBuffersToHash, wp_bind]
  refine loaded.wp_getCommand fun cmd _ _ described => ?_
  exact wp_outputBuffersToHashFrom_ends ph (by rw [described.buffers, described.colinfo]) 0 [] world

omit scripted in
/-- The loop of `read_rows` and that of `read_cols` fetch a row in each pass. -/
theorem wp_iterate_fetching {α β : Type} {body : α → Driver (List Reply) (α ⊕ β)}
    {columns : List Datafmt} (invariant : α → Prop)
    (step : ∀ (loop : α) (state : World (List Reply)), invariant loop → Loaded id columns state →
      wp (body loop) (fun result after => Loaded id columns after ∧
        after.env.length < state.env.length ∧ ∀ again, result = .inl again → invariant again)
        anyThrow (StopsAtValue cfg) state)
    {loop : α} (holds : invariant loop) (loaded : Loaded id columns world) {bound : Nat}
    (enough : world.env.length < bound) :
    wp (iterate .exhausted body bound loop) (fun _ after => Onward id world after) anyThrow
      (StopsAtValue cfg) world := by
  refine wp_iterate_variant (fun variant loop state => invariant loop ∧ Loaded id columns state ∧
      state.env.length = variant ∧ variant ≤ world.env.length) ?_ bound _ loop world enough
    ⟨holds, loaded, rfl, Nat.le_refl _⟩
  rintro variant loop state ⟨holds, loaded, rfl, below⟩
  refine wp_mono_ok (step loop state holds loaded) ?_
  rintro (again | value) after ⟨loaded, fewer, onward⟩
  · exact ⟨_, fewer, onward again rfl, loaded, rfl, by omega⟩
  · exact ⟨loaded.mono fun _ => Described.fits, by omega⟩

theorem wp_readRowsOnce_ends (ph : Option (List Text)) (singleRow : Bool) (rows : List Hash)
    {columns : List Datafmt} (loaded : Loaded id columns world) :
    wp (readRowsOnce cfg id ph singleRow rows)
      (fun _ after => Loaded id columns after ∧ after.env.length < world.env.length) anyThrow
      (StopsAtValue cfg) world := by
  rw [readRowsOnce, wp_bind]
  refine wp_mono_ok (wp_fetchRowIntoBuffers_ends scripted loaded) ?_
  rintro more fetched ⟨loaded, fewer⟩
  split
  · rw [wp_bind]
    refine wp_mono_ok (wp_outputBuffersToHash_ends ph loaded) fun row after noted => ?_
    have ended : Loaded id columns after ∧ after.env.length < world.env.length :=
      ⟨loaded.noted noted, by rwa [noted.env_eq]⟩
    rw [wp_bind, wp_isException]
    split
    · exact ended
    · split
      · rw [wp_bind, wp_raiseException]
        exact ended
      · exact ended
  · exact ⟨loaded, fewer⟩

/-- Reading rows ends. -/
theorem wp_readRows_ends (ph : Option (List Text)) (singleRow : Bool) (held : Held id Fits world)
    (enough : world.env.length < cfg.fuel) :
    wp (readRows cfg id ph singleRow) (fun _ after => Onward id world after) anyThrow
      (StopsAtValue cfg) world := by
  rw [readRows, wp_bind]
  refine wp_mono_ok (wp_ensureColinfo_ends scripted held) fun failed ensured post => ?_
  split
  · rename_i failed
    rwa [if_pos failed] at post
  · rename_i succeeded
    rw [if_neg succeeded] at post
    obtain ⟨columns, known⟩ := post
    have step : ∀ (rows : List Hash) (state : World (List Reply)), True → Loaded id columns state →
        wp (readRowsOnce cfg id ph singleRow rows) (fun result after => Loaded id columns after ∧
          after.env.length < state.env.length ∧ ∀ again, result = .inl again → True)
          anyThrow (StopsAtValue cfg) state := fun rows state _ loaded =>
      wp_mono_ok (wp_readRowsOnce_ends scripted ph singleRow rows loaded)
        fun _ _ ⟨loaded, fewer⟩ => ⟨loaded, fewer, fun _ _ => trivial⟩
    refine wp_mono_ok (wp_iterate_fetching (fun _ => True) step trivial known.2.1
      (Nat.lt_of_le_of_lt known.length_le enough)) fun _ after onward => ?_
    exact onward.of_le known.length_le

/-! ### Columns -/

omit scripted in
theorem wp_setupColumns_ends (ph : Option (List Text)) {columns : List Datafmt}
    (loaded : Loaded id columns world) :
    wp (setupColumns id ph []) (fun h after => HasLists columns h ∧ after = world) anyThrow
      (StopsAtValue cfg) world := by
  rw [setupColumns, wp_bind]
  refine loaded.wp_getCommand fun cmd _ _ described => ?_
  rw [described.colinfo, setupColumns_eq]
  exact ⟨hasLists_setupColumns ph columns, rfl⟩

/-- The hash that rows are appended to: not set up yet, or a list for each column. -/
def Collecting (columns : List Datafmt) (h : Hash) : Prop := h = [] ∨ HasLists columns h

omit scripted in
theorem wp_setupIfEmpty_ends (ph : Option (List Text)) {columns : List Datafmt} {h : Hash}
    (nonempty : columns ≠ []) (collecting : Collecting columns h)
    (loaded : Loaded id columns world) :
    wp (setupColumnsIf h.isEmpty id ph h) (fun set after => HasLists columns set ∧ after = world)
      anyThrow (StopsAtValue cfg) world := by
  rcases collecting with rfl | lists
  · exact wp_setupColumns_ends ph loaded
  · cases h with
    | nil => exact absurd (List.eq_nil_of_length_eq_zero lists.1.symm) nonempty
    | cons entry h => exact ⟨lists, rfl⟩

omit scripted in
theorem wp_appendBuffersToList_ends {columns : List Datafmt} {h : Hash}
    (lists : HasLists columns h) (loaded : Loaded id columns world) :
    wp (appendBuffersToList cfg id h)
      (fun appended after => Noted world after ∧ ∀ rows, appended = some rows →
        HasLists columns rows)
      anyThrow (StopsAtValue cfg) world := by
  rw [appendBuffersToList, wp_bind]
  refine loaded.wp_getCommand fun cmd _ _ described => ?_
  rw [described.colinfo]
  exact wp_appendFrom_ends described.buffers lists world

theorem wp_readColsOnce_ends (ph : Option (List Text)) {columns : List Datafmt}
    (nonempty : columns ≠ []) {loop : Int × Hash} (collecting : Collecting columns loop.2)
    (loaded : Loaded id columns world) :
    wp (readColsOnce cfg id ph loop)
      (fun result after => Loaded id columns after ∧ after.env.length < world.env.length ∧
        ∀ again, result = .inl again → Collecting columns again.2)
      anyThrow (StopsAtValue cfg) world := by
  obtain ⟨cnt, h⟩ := loop
  rw [readColsOnce, wp_bind]
  refine wp_mono_ok (wp_fetchRowIntoBuffers_ends scripted loaded) ?_
  rintro more fetched ⟨loaded, fewer⟩
  split
  · rw [wp_bind]
    refine wp_mono_ok (wp_setupIfEmpty_ends ph nonempty collecting loaded) ?_
    rintro set _ ⟨lists, rfl⟩
    rw [wp_bind]
    refine wp_mono_ok (wp_appendBuffersToList_ends lists loaded) ?_
    rintro appended after ⟨noted, rows⟩
    have ended : Loaded id columns after ∧ after.env.length < world.env.length :=
      ⟨loaded.noted noted, by rwa [noted.env_eq]⟩
    split
    · exact ⟨ended.1, ended.2, by simp⟩
    · split
      · exact ⟨ended.1, ended.2, by simp⟩
      · refine ⟨ended.1, ended.2, fun again same => ?_⟩
        cases same
        exact .inr (rows _ rfl)
  · exact ⟨loaded, fewer, by simp⟩

/-- Reading columns ends; answers were taken, unless an exception was pending. -/
theorem wp_readCols_ends (ph : Option (List Text)) (cnt : Int) (cols : Bool)
    (held : Held id Fits world) (enough : world.env.length < cfg.fuel) :
    wp (readCols cfg id ph cnt cols)
      (fun _ after => Onward id world after ∨ world.xsink ≠ [] ∧ after = world) anyThrow
      (StopsAtValue cfg) world := by
  rw [readCols, wp_bind]
  refine wp_mono_ok (wp_ensureColinfo_ends scripted held) fun failed ensured post => ?_
  split
  · rename_i failed
    rw [if_pos failed] at post
    exact .inl post
  · rename_i succeeded
    rw [if_neg succeeded] at post
    obtain ⟨columns, nonempty, loaded, fewer⟩ := post
    have known : Known id columns world ensured := ⟨nonempty, loaded, fewer⟩
    rw [wp_bind, wp_isException]
    split
    · rename_i raised
      rcases fewer with rfl | fewer
      · exact .inr ⟨by simpa using raised, rfl⟩
      · exact .inl ⟨loaded.mono fun _ => Described.fits, fewer⟩
    · have setUp : wp (setupColumnsIf cols id ph []) (fun h after => Collecting columns h ∧
          after = ensured) anyThrow (StopsAtValue cfg) ensured := by
        cases cols with
        | true =>
          exact wp_mono_ok (wp_setupColumns_ends ph loaded) fun _ _ post => ⟨.inr post.1, post.2⟩
        | false => exact ⟨.inl rfl, rfl⟩
      rw [wp_bind]
      refine wp_mono_ok setUp ?_
      rintro h _ ⟨collecting, rfl⟩
      refine wp_mono_ok (wp_iterate_fetching (fun loop => Collecting columns loop.2)
        (fun loop state holds loaded => wp_readColsOnce_ends scripted ph nonempty holds loaded)
        collecting loaded (Nat.lt_of_le_of_lt known.length_le enough)) fun _ after onward => ?_
      exact .inl (onward.of_le known.length_le)

/-- Reading rows or columns ends. -/
theorem wp_readRowsOrCols_ends (ph : Option (List Text)) (list cols singleRow : Bool)
    (held : Held id Fits world) (enough : world.env.length < cfg.fuel) :
    wp (readRowsOrCols cfg id ph list cols singleRow)
      (fun _ after => Onward id world after ∨
        after.xsink ≠ [] ∧ Held id Fits after ∧ after.env.length ≤ world.env.length)
      anyThrow (StopsAtValue cfg) world := by
  rw [readRowsOrCols, wp_bind]
  refine wp_mono_ok (wp_ensureColinfo_ends scripted held) fun failed ensured post => ?_
  split
  · rename_i failed
    rw [if_pos failed] at post
    exact .inl post
  · rename_i succeeded
    rw [if_neg succeeded] at post
    obtain ⟨columns, known⟩ := post
    have ready : Held id Fits ensured := known.2.1.mono fun _ => Described.fits
    have enough := Nat.lt_of_le_of_lt known.length_le enough
    split
    · exact wp_mono_ok (wp_readRows_ends scripted ph singleRow ready enough)
        fun _ _ onward => .inl (onward.of_le known.length_le)
    · rw [wp_bind]
      refine wp_mono_ok (wp_readCols_ends scripted ph (-1) cols ready enough) ?_
      rintro h after (onward | ⟨raised, rfl⟩)
      · exact .inl (onward.of_le known.length_le)
      · exact .inr ⟨raised, ready, known.length_le⟩

/-! ### Announcing results -/

/-- The state after a result is announced. Answers were taken where the result is one after which
reading goes on without fetching. -/
def Announced (id : CommandId) (res : ResType) (world after : World (List Reply)) : Prop :=
  Held id Fits after ∧ after.env.length ≤ world.env.length ∧
    (res = .resRetry ∨ res = .resDone → after.env.length < world.env.length)

theorem wp_readRowCount_ends (held : Held id Fits world) :
    wp (readRowCount cfg id) (fun res after => Announced id res world after) anyThrow
      (StopsAtValue cfg) world := by
  rw [readRowCount, wp_bind, wp_modifyCommand, wp_bind]
  have held' : Held id Fits { world with
      commands := Function.update world.commands id ((world.commands id).map fun cmd =>
        { cmd with rowcount := -1 }) } := held.modify (fun _ => rfl) fun _ fits => fits
  refine held'.wp_getCommand fun cmd _ _ _ => ?_
  have answered := held'.answered cfg.lib .other (.rowCount cmd.mCmd)
  rw [wp_bind, wp_ctCall]
  split
  · rw [wp_bind, wp_doException]
    trivial
  · rename_i succeeded
    rw [wp_bind, wp_modifyCommand]
    have fewer := scripted.length_lt (.rowCount cmd.mCmd) world.env
      (by simp [not_not.mp succeeded])
    exact ⟨answered.modify (fun _ => rfl) fun _ _ => nofun, Nat.le_of_lt fewer,
      fun _ => fewer⟩

theorem wp_announced_ends (type : ResultType) (held : Held id Fits world) :
    wp (announced cfg id type) (fun _ after => Held id Fits after ∧
      after.env.length ≤ world.env.length) anyThrow (StopsAtValue cfg) world := by
  cases type with
  | cmdDone =>
    exact wp_mono_ok (wp_readRowCount_ends scripted held) fun _ _ announced =>
      ⟨announced.1, announced.2.1⟩
  | cmdFail =>
    rw [announced, wp_bind, wp_doException]
    trivial
  | other type =>
    rw [announced, wp_bind, wp_doException]
    trivial
  | _ => exact ⟨held, Nat.le_refl _⟩

theorem wp_readNextResult1_ends (disconnect : Bool) (held : Held id Fits world) :
    wp (readNextResult1 cfg id disconnect)
      (fun result after => Announced id result.1 world after) anyThrow
      (StopsAtValue cfg) world := by
  have error : Announced id .resError world world := ⟨held, Nat.le_refl _, by simp⟩
  rw [readNextResult1, wp_bind, wp_isException]
  split
  · exact error
  · rw [wp_bind]
    refine held.wp_getCommand fun cmd _ handle _ => ?_
    split
    · rename_i waiting
      exact ⟨held, Nat.le_refl _, fun again => absurd again (by tauto)⟩
    · have answered := held.answered cfg.lib .other (.results cmd.mCmd)
      have fewer := scripted.length_le (.results cmd.mCmd) world.env
      rw [wp_bind, wp_ctCall]
      split
      · exact ⟨answered, fewer, by simp⟩
      · rw [wp_bind, cancelIntern, wp_bind]
        refine answered.wp_getCommand fun cmd' _ handle _ => ?_
        rw [wp_bind, wp_assert]
        refine ⟨fun failed => absurd failed (by simp [handle]), fun _ => ?_⟩
        rw [wp_bind, wp_ctCallAt, wp_pure, wp_bind, wp_raiseException]
        exact ⟨held, Nat.le_trans (scripted.length_le _ _) fewer, by simp⟩
      · rename_i code
        rw [wp_bind]
        refine wp_mono_ok (wp_announced_ends scripted _ answered) ?_
        rintro res after ⟨held, fewer'⟩
        have taken := scripted.length_lt (.results cmd.mCmd) world.env (by simp [code])
        exact ⟨held, Nat.le_trans fewer' fewer, fun _ => Nat.lt_of_le_of_lt fewer' taken⟩
      · rw [wp_bind, wp_doException]
        trivial

/-- Reading the next result ends. -/
theorem wp_readNextResult_ends (held : Held id Fits world) (enough : world.env.length < cfg.fuel) :
    wp (Command.readNextResult cfg id) (fun result after => Announced id result.1 world after)
      anyThrow (StopsAtValue cfg) world := by
  refine wp_iterate_variant (fun variant _ state => Held id Fits state ∧
      state.env.length = variant ∧ variant ≤ world.env.length) ?_ cfg.fuel _ false world enough
    ⟨held, rfl, Nat.le_refl _⟩
  rintro variant disconnect state ⟨held, rfl, below⟩
  rw [wp_bind]
  refine wp_mono_ok (wp_readNextResult1_ends scripted disconnect held) ?_
  rintro ⟨res, lost⟩ after ⟨held, fewer, taken⟩
  have modified : Held id Fits { after with
      commands := Function.update after.commands id ((after.commands id).map fun cmd =>
        { cmd with lastRes := res }) } := held.modify (fun _ => rfl) fun _ fits => fits
  rw [wp_bind, wp_modifyCommand]
  split
  · rename_i again
    exact ⟨_, taken (.inl again), modified, rfl, Nat.le_trans fewer below⟩
  · exact ⟨modified, Nat.le_trans fewer below,
      fun again => Nat.lt_of_lt_of_le (taken again) below⟩

end Reading

end Sybase
