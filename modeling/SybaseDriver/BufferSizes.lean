/-
This file proves which lengths the columns of a result are bound with, and which
buffers are allocated for them. A column of a text type is bound with twice its
described length in a multi-byte encoding; a server that describes it with a
length of two gigabytes takes the product out of the range of a `CS_INT`, and the
length that is bound is negative.
-/

import SybaseDriver.WorldLogic
import SybaseDriver.Command

namespace Sybase

open Program Command

/-! ### What the log shows -/

/-- The column an event describes. -/
def Event.described? : Event → Option Datafmt
  | .call (.describe _ _) reply => some reply.datafmt
  | _ => none

/-- The column an event binds, with the length it is bound with. -/
def Event.bound? : Event → Option (Nat × Int)
  | .call (.bind _ column maxlength) _ => some (column, maxlength)
  | _ => none

/-- The columns `ct_describe` has described, in their order. -/
def describedIn (log : List Entry) : List Datafmt := log.reverse.filterMap (·.event.described?)

/-- The columns `ct_bind` was called for, in their order, each with its length. -/
def boundIn (log : List Entry) : List (Nat × Int) := log.reverse.filterMap (·.event.bound?)

theorem describedIn_cons (entry : Entry) (log : List Entry) :
    describedIn (entry :: log) = describedIn log ++ entry.event.described?.toList := by
  rw [describedIn, describedIn, List.reverse_cons, List.filterMap_append, List.filterMap_cons,
    List.filterMap_nil]
  cases entry.event.described? <;> rfl

theorem boundIn_cons (entry : Entry) (log : List Entry) :
    boundIn (entry :: log) = boundIn log ++ entry.event.bound?.toList := by
  rw [boundIn, boundIn, List.reverse_cons, List.filterMap_append, List.filterMap_cons,
    List.filterMap_nil]
  cases entry.event.bound? <;> rfl

/-- What was described and bound since a state, and the command as it is now. -/
structure Recorded {σ : Type} (id : CommandId) (base : World σ) (described : List Datafmt)
    (bound : List (Nat × Int)) (cmd : Command) (world : World σ) : Prop where
  held : world.commands id = some cmd
  described_eq : describedIn world.log = describedIn base.log ++ described
  bound_eq : boundIn world.log = boundIn base.log ++ bound
  connection : world.connection = base.connection

/-! ### Safe bindings -/

/-- The types whose values are texts. -/
def Datatype.isText : Datatype → Bool
  | .char | .longchar | .varchar | .text | .unichar => true
  | _ => false

/-- The types whose length is doubled in a multi-byte encoding. -/
def Datatype.isDoubled : Datatype → Bool
  | .longchar | .varchar | .text => true
  | _ => false

/-- Every described column is bound, in its order, with a length that is not negative and that a
text of the described length fits in, to a buffer that has room for this length and a terminator. -/
structure BindsSafely (described : List Datafmt) (bound : List (Nat × Int))
    (buffers : List OutputValueBuffer) : Prop where
  bound_length : bound.length = described.length
  buffers_length : buffers.length = described.length
  column : ∀ (i : Nat) (datafmt : Datafmt), described[i]? = some datafmt →
    ∃ maxlength buffer, bound[i]? = some (i + 1, maxlength) ∧ buffers[i]? = some buffer ∧
      0 ≤ maxlength ∧ (datafmt.datatype.isText = true → datafmt.maxlength ≤ maxlength) ∧
      maxlength + 1 ≤ buffer.allocated

section Lengths

variable {σ : Type} {cfg : Config σ} {isMultiByte : Bool} {datafmt : Datafmt}

/-- A buffer has room for its length and a terminator. -/
theorem newBuffer_allocated {size : Int} (nonneg : 0 ≤ size) (inRange : size ≤ 2147483647) :
    size + 1 ≤ (newBuffer size).allocated := by
  have same : toUInt32 size = size := Int.emod_eq_of_lt nonneg (by omega)
  rw [newBuffer, same]
  dsimp only
  split
  · rw [toUInt32]
    omega
  · have next : toUInt32 (size + 1) = size + 1 := Int.emod_eq_of_lt (by omega) (by omega)
    rw [next]
    omega

/-- A length that is not doubled out of range fits a text. -/
theorem adjust_maxlength (fits : isMultiByte = true → datafmt.datatype.isDoubled = true →
      datafmt.maxlength ≤ 1073741823)
    (nonneg : 0 ≤ datafmt.maxlength) (inRange : datafmt.maxlength ≤ 2147483647) :
    0 ≤ (adjust cfg isMultiByte datafmt).maxlength ∧
      (adjust cfg isMultiByte datafmt).maxlength ≤ 2147483647 ∧
      (datafmt.datatype.isText = true →
        datafmt.maxlength ≤ (adjust cfg isMultiByte datafmt).maxlength) := by
  have doubled (type : datafmt.datatype.isDoubled = true) (multi : isMultiByte = true) :
      toInt32 (datafmt.maxlength * 2) = datafmt.maxlength * 2 :=
    have short := fits multi type
    toInt32_of_range (by omega) (by omega)
  unfold adjust
  cases type : datafmt.datatype with
  | decimal | numeric => simp [Datatype.isText]
  | longchar | varchar | text =>
    have twice := doubled (by rw [type]; rfl)
    cases isMultiByte with
    | false => exact ⟨nonneg, inRange, fun _ => le_rfl⟩
    | true =>
      have short := fits rfl (by rw [type]; rfl)
      simp only [twice rfl, if_true]
      omega
  | float =>
    simp only [Datatype.isText]
    split
    · simp
    · exact ⟨nonneg, inRange, fun _ => le_rfl⟩
  | _ => exact ⟨nonneg, inRange, fun _ => le_rfl⟩

/-- A length that is doubled out of the range of a `CS_INT` is negative. -/
theorem adjust_maxlength_neg (type : datafmt.datatype.isDoubled = true)
    (long : 1073741823 < datafmt.maxlength) (inRange : datafmt.maxlength ≤ 2147483647) :
    (adjust cfg true datafmt).maxlength < 0 := by
  have wrapped : toInt32 (datafmt.maxlength * 2) < 0 := by
    rw [toInt32, Int.bmod]
    omega
  unfold adjust
  cases same : datafmt.datatype with
  | longchar | varchar | text => exact wrapped
  | _ => simp [same, Datatype.isDoubled] at type

end Lengths

/-! ### The calls -/

section Calls

variable {σ : Type} {cfg : Config σ} {id : CommandId} {base world after : World σ} {cmd : Command}
  {described columns : List Datafmt} {bound lengths : List (Nat × Int)}

/-- A change of the command is not recorded. -/
theorem Recorded.modify (recorded : Recorded id base described bound cmd world)
    (change : Command → Command) :
    Recorded id base described bound (change cmd) { world with
      commands := Function.update world.commands id ((world.commands id).map change) } :=
  { recorded with
    held := (Function.update_self _ _ _).trans (congrArg (Option.map change) recorded.held) }

/-- A call is recorded if it describes or binds a column. -/
theorem Recorded.answered (recorded : Recorded id base described bound cmd world) (call : CtCall) :
    Recorded id base
      (described ++ (Event.call call (cfg.lib.reply call world.env).1).described?.toList)
      (bound ++ (Event.call call (cfg.lib.reply call world.env).1).bound?.toList) cmd
      (world.answered cfg.lib .other call) where
  held := recorded.held
  described_eq := by
    rw [answered_log, describedIn_cons, recorded.described_eq, List.append_assoc]
  bound_eq := by
    rw [answered_log, boundIn_cons, recorded.bound_eq, List.append_assoc]
  connection := recorded.connection

/-- A described column. -/
theorem Recorded.describe (recorded : Recorded id base described bound cmd world)
    (handle : Option Handle) (column : Nat) :
    Recorded id base
      (described ++ [(cfg.lib.reply (.describe handle column) world.env).1.datafmt]) bound cmd
      (world.answered cfg.lib .other (.describe handle column)) := by
  simpa [Event.described?, Event.bound?] using
    @Recorded.answered _ cfg _ _ _ _ _ _ recorded (.describe handle column)

/-- A bound column. -/
theorem Recorded.bind (recorded : Recorded id base described bound cmd world)
    (handle : Option Handle) (column : Nat) (maxlength : Int) :
    Recorded id base described (bound ++ [(column, maxlength)]) cmd
      (world.answered cfg.lib .other (.bind handle column maxlength)) := by
  simpa [Event.described?, Event.bound?] using
    @Recorded.answered _ cfg _ _ _ _ _ _ recorded (.bind handle column maxlength)

/-- `get_row_description` describes the columns, and adjusts their descriptions. -/
theorem wp_getRowDescription_recorded (recorded : Recorded id base described bound cmd world)
    (remaining index : Nat) :
    wpOk (getRowDescription cfg id remaining index) (fun _ after => ∃ columns,
      Recorded id base (described ++ columns) bound { cmd with colinfo := { cmd.colinfo with
        datafmt := cmd.colinfo.datafmt ++
          columns.map (adjust cfg base.connection.enc.isMultiByte) } } after) world := by
  induction remaining generalizing index world cmd described with
  | zero => exact ⟨[], by simpa using recorded⟩
  | succ remaining inductionHypothesis =>
    rw [getRowDescription, wpOk, wp_bind, wp_getCommand_some recorded.held, wp_bind, wp_ctCall]
    have answered := @Recorded.describe _ cfg _ _ _ _ _ _ recorded cmd.mCmd (index + 1)
    generalize (cfg.lib.reply (.describe cmd.mCmd (index + 1)) world.env).1 = reply at answered ⊢
    split
    · rw [wp_bind, wp_doException]
      trivial
    · rw [wp_bind, wp_get, wp_bind, wp_modifyCommand]
      have modified := answered.modify fun cmd => { cmd with colinfo := { cmd.colinfo with
        datafmt := cmd.colinfo.datafmt ++
          [adjust cfg world.connection.enc.isMultiByte reply.datafmt] } }
      refine wp_mono_ok (inductionHypothesis modified (index + 1)) ?_
      rintro _ after ⟨columns, later⟩
      exact ⟨reply.datafmt :: columns, by simpa [recorded.connection] using later⟩

/-- `setup_output_buffers` binds the columns in their order, each to a buffer of its length. -/
theorem wp_bindColumns_recorded (recorded : Recorded id base described bound cmd world)
    (columns : List Datafmt) (index : Nat) :
    wpOk (bindColumns cfg id columns index) (fun _ after =>
      Recorded id base described
        (bound ++ columns.mapIdx fun i datafmt => (index + i + 1, datafmt.maxlength))
        { cmd with outBuffers := cmd.outBuffers ++
          columns.map fun datafmt => newBuffer datafmt.maxlength } after) world := by
  induction columns generalizing index world cmd bound with
  | nil =>
    rw [bindColumns, wpOk, wp_pure]
    simpa using recorded
  | cons datafmt columns inductionHypothesis =>
    have modified := recorded.modify fun cmd => { cmd with
      outBuffers := cmd.outBuffers ++ [newBuffer datafmt.maxlength] }
    rw [bindColumns, wpOk, wp_bind, wp_modifyCommand, wp_bind, wp_getCommand_some modified.held,
      wp_bind, wp_ctCall]
    have answered := @Recorded.bind _ cfg _ _ _ _ _ _ modified cmd.mCmd (index + 1)
      datafmt.maxlength
    split
    · rw [wp_bind, wp_doException]
      trivial
    · refine wp_mono_ok (inductionHypothesis answered (index + 1)) fun _ after recorded => ?_
      simpa [Nat.add_assoc, Nat.add_comm 1] using recorded

/-- `retr_colinfo` describes the columns of the result and binds each to a buffer of its adjusted
length. -/
theorem wp_retrColinfo_recorded (held : world.commands id = some cmd) :
    wpOk (retrColinfo cfg id) (fun result after => result = 0 → ∃ columns cmd',
      Recorded id world columns
        ((columns.map (adjust cfg world.connection.enc.isMultiByte)).mapIdx
          fun i datafmt => (i + 1, datafmt.maxlength)) cmd' after ∧
      cmd'.outBuffers = (columns.map (adjust cfg world.connection.enc.isMultiByte)).map
        fun datafmt => newBuffer datafmt.maxlength) world := by
  have start : Recorded id world [] [] cmd world :=
    ⟨held, (List.append_nil _).symm, (List.append_nil _).symm, rfl⟩
  have counted : Recorded id world [] [] cmd
      (world.answered cfg.lib .other (.numData cmd.mCmd)) := by
    simpa [Event.described?, Event.bound?] using
      @Recorded.answered _ cfg _ _ _ _ _ _ start (.numData cmd.mCmd)
  rw [retrColinfo, wpOk, wp_bind, getColumnCount, wp_bind, wp_getCommand_some held, wp_bind,
    wp_ctCall, wp_bind, wp_when]
  refine ⟨fun _ => by rw [wp_doException]; trivial, fun _ => ?_⟩
  rw [wp_bind, wp_when]
  refine ⟨fun _ => by rw [wp_doException]; trivial, fun _ => ?_⟩
  rw [wp_pure, wp_bind, wp_isException]
  split
  · rw [wp_pure]
    intro same
    cases same
  · rw [wp_bind, wp_modifyCommand, wp_bind]
    refine wp_mono_ok (wp_getRowDescription_recorded (counted.modify _) _ _) ?_
    rintro _ described ⟨columns, recorded⟩
    rw [wp_bind, wp_getCommand_some recorded.held, wp_bind, setupOutputBuffers, wp_bind,
      wp_modifyCommand]
    refine wp_mono_ok (wp_bindColumns_recorded (recorded.modify _) _ _) fun _ bound recorded => ?_
    rw [wp_bind, wp_modifyCommand, wp_pure]
    have cleaned := recorded.modify fun cmd =>
      { cmd with colinfo := { cmd.colinfo with dirty := false } }
    simp only [List.nil_append, Nat.zero_add] at cleaned
    exact fun _ => ⟨columns, _, cleaned, rfl⟩

/-- `retr_colinfo` binds the columns safely if and only if none of them is doubled out of the range
of a `CS_INT`. -/
theorem bindsSafely_iff {cmd' : Command} (held : world.commands id = some cmd)
    (ran : retrColinfo cfg id world = (.ok 0, after)) (held' : after.commands id = some cmd')
    (described : describedIn after.log = describedIn world.log ++ columns)
    (bound : boundIn after.log = boundIn world.log ++ lengths)
    (inRange : ∀ datafmt ∈ columns, 0 ≤ datafmt.maxlength ∧ datafmt.maxlength ≤ 2147483647) :
    BindsSafely columns lengths cmd'.outBuffers ↔
      (world.connection.enc.isMultiByte = true → ∀ datafmt ∈ columns,
        datafmt.datatype.isDoubled = true → datafmt.maxlength ≤ 1073741823) := by
  have outcome := @wp_retrColinfo_recorded σ cfg id world cmd held
  rw [wpOk, wp, ran] at outcome
  obtain ⟨columns', cmd'', recorded, buffers⟩ := outcome rfl
  obtain rfl : cmd'' = cmd' := Option.some_inj.mp (recorded.held.symm.trans held')
  obtain rfl : columns' = columns :=
    List.append_cancel_left (recorded.described_eq.symm.trans described)
  have lengths_eq := List.append_cancel_left (recorded.bound_eq.symm.trans bound)
  subst lengths_eq
  rw [buffers]
  constructor
  · intro safe multi datafmt member doubled
    obtain ⟨i, below, rfl⟩ := List.mem_iff_getElem.mp member
    obtain ⟨maxlength, buffer, isBound, -, nonneg, -⟩ :=
      safe.column i _ (List.getElem?_eq_getElem below)
    by_contra long
    have negative := @adjust_maxlength_neg σ cfg columns'[i] doubled (not_le.mp long)
      (inRange _ member).2
    simp [below, multi] at isBound
    omega
  · intro fits
    refine ⟨by simp, by simp, fun i datafmt here => ?_⟩
    have member := List.mem_of_getElem? here
    obtain ⟨nonneg, upper⟩ := inRange datafmt member
    obtain ⟨nonneg', upper', isText⟩ := @adjust_maxlength σ cfg world.connection.enc.isMultiByte
      datafmt (fun multi => fits multi datafmt member) nonneg upper
    exact ⟨_, _, by simp [List.getElem?_mapIdx, here], by simp [here], nonneg', isText,
      newBuffer_allocated nonneg' upper'⟩

end Calls

/-- A text column of a described length. -/
def textColumn (maxlength : Int) : Datafmt := ⟨text "a", .text, .text, 0, maxlength, .unused, 1⟩

/-- A command with one text column that is not yet described. -/
def describingWorld (maxlength : Int) : World (List Reply) :=
  { World.opened [{ number := 1 }, { datafmt := textColumn maxlength }, {}] with
    commands := Function.update (fun _ => none) 0
      (some ⟨none, some 0, -1, .resNone, ⟨true, []⟩, []⟩) }

theorem bindsSafely_short : BindsSafely [textColumn 100] [(1, 200)] [newBuffer 200] :=
  (@bindsSafely_iff _ (Config.sample (CtLib.scripted false) true 1) 0 (describingWorld 100) _ _
    [textColumn 100] [(1, 200)] _ rfl rfl rfl rfl rfl (by simp [textColumn])).mpr
      (by simp [textColumn])

/-- A text column of two gigabytes is bound with a negative length. -/
theorem not_bindsSafely_long : ∃ after cmd columns lengths,
    retrColinfo (Config.sample (CtLib.scripted false) true 1) 0 (describingWorld 2147483647) =
      (.ok 0, after) ∧
    after.commands 0 = some cmd ∧ describedIn after.log = columns ∧ boundIn after.log = lengths ∧
    (∀ datafmt ∈ columns, 0 ≤ datafmt.maxlength ∧ datafmt.maxlength ≤ 2147483647) ∧
    ¬ BindsSafely columns lengths cmd.outBuffers := by
  refine ⟨_, _, [textColumn 2147483647], [(1, -2)], rfl, rfl, rfl, rfl, by simp [textColumn], ?_⟩
  intro safe
  obtain ⟨maxlength, buffer, isBound, -, nonneg, -⟩ := safe.column 0 _ rfl
  cases isBound
  exact absurd nonneg (by decide)

end Sybase
