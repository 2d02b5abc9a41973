/-
This file proves that no failure while reading is passed over. Errors travel by a
throw, by the exception sink or by a return code; whichever way a function reports
one, it does not return with an empty sink after a call that failed. So a result is
handed out only where every call made for it succeeded.
-/

import SybaseDriver.Resend

namespace Sybase

open Program Connection

variable {σ : Type}

/-! ### Calls that fail -/

/-- The calls made while reading that fail: a result that is neither announced nor the end of the
results, the failure of the command or an unknown result; no answer to `ct_res_info`, `ct_describe`
or `ct_bind`; and a fetch of neither one row nor the end of the data. -/
def CtCall.Fails (call : CtCall) (reply : Reply) : Prop :=
  match call with
  | .results _ => (reply.code ≠ .succeed ∧ reply.code ≠ .endResults) ∨
      reply.code = .succeed ∧ (reply.resultType = .cmdFail ∨ ∃ type, reply.resultType = .other type)
  | .rowCount _ | .numData _ | .describe _ _ | .bind _ _ _ => reply.code ≠ .succeed
  | .fetch _ => ¬(reply.code = .succeed ∧ reply.number = 1) ∧ reply.code ≠ .endData
  | _ => False

/-- An entry of the log that is a failure of reading: a call that fails, or a value that is not NULL
in a column of an unknown type. -/
def Entry.IsFailedRead (cfg : Config σ) (entry : Entry) : Prop :=
  match entry.event with
  | .call call reply => call.Fails reply
  | .value datafmt cell => ∃ raised, decode cfg datafmt cell = .exception raised
  | _ => False

/-- Where the sink is empty afterwards, it was empty before, and nothing that was read has
failed. -/
def Clean (cfg : Config σ) (world after : World σ) : Prop :=
  after.xsink = [] → world.xsink = [] ∧
    ∃ new, after.log = new ++ world.log ∧ ∀ entry ∈ new, ¬entry.IsFailedRead cfg

namespace Clean

variable {cfg : Config σ} {world middle after : World σ}

theorem trans (first : Clean cfg world middle) (second : Clean cfg middle after) :
    Clean cfg world after := by
  intro quiet
  obtain ⟨quietMiddle, new, log, succeeded⟩ := second quiet
  obtain ⟨quietWorld, new', log', succeeded'⟩ := first quietMiddle
  refine ⟨quietWorld, new ++ new', by rw [log, log', List.append_assoc], fun entry member => ?_⟩
  exact (List.mem_append.mp member).elim (succeeded entry) (succeeded' entry)

theorem of_raised (raised : after.xsink ≠ []) : Clean cfg world after :=
  fun quiet => absurd quiet raised

theorem of_eq (xsink : after.xsink = world.xsink) (log : after.log = world.log) :
    Clean cfg world after :=
  fun quiet => ⟨xsink ▸ quiet, [], log, fun _ member => absurd member List.not_mem_nil⟩

theorem of_entry (entry : Entry) (succeeded : ¬entry.IsFailedRead cfg)
    (xsink : after.xsink = world.xsink) (log : after.log = entry :: world.log) :
    Clean cfg world after :=
  fun quiet => ⟨xsink ▸ quiet, [entry], log,
    fun _ member => List.mem_singleton.mp member ▸ succeeded⟩

end Clean

/-! ### Programs that report failures -/

/-- The program does not return with an empty sink after a failure. -/
def Reports {α : Type} (cfg : Config σ) (program : Driver σ α) : Prop :=
  ∀ world, wp program (fun _ after => Clean cfg world after) (fun _ _ => True) (fun _ _ => True)
    world

/-- The program does not return with an empty sink. -/
def Complains {α : Type} (program : Driver σ α) : Prop :=
  ∀ world, wp program (fun _ after => after.xsink ≠ []) (fun _ _ => True) (fun _ _ => True) world

section Rules

variable {cfg : Config σ} {α β : Type}

theorem reports_pure (value : α) : Reports cfg (pure value : Driver σ α) :=
  fun _ => Clean.of_eq rfl rfl

theorem reports_throw (error : Error) : Reports cfg (throw error : Driver σ α) := fun _ => trivial

theorem reports_halt (reason : Halt) : Reports cfg (halt reason : Driver σ α) := fun _ => trivial

theorem reports_get : Reports cfg (get : Driver σ (World σ)) := fun _ => Clean.of_eq rfl rfl

theorem reports_isException : Reports cfg (isException : Driver σ Bool) :=
  fun _ => Clean.of_eq rfl rfl

theorem reports_modifyCommand (id : CommandId) (change : Command → Command) :
    Reports cfg (modifyCommand id change : Driver σ Unit) := fun _ => Clean.of_eq rfl rfl

theorem complains_doException (err fmt : String) :
    Complains (doException err fmt : Driver σ Unit) :=
  fun _ => (wp_doException err fmt).mpr trivial

/-- What follows `do_exception` is never run. -/
theorem complains_thrown (err fmt : String) (next : Unit → Driver σ α) :
    Complains (doException err fmt >>= next) := fun world => by
  rw [wp_bind, wp_doException]
  trivial

theorem complains_raiseException (err desc : String) :
    Complains (raiseException err desc : Driver σ Unit) := fun _ => List.cons_ne_nil _ _

theorem Complains.reports {program : Driver σ α} (complains : Complains program) :
    Reports cfg program := fun world =>
  wp_mono_ok (complains world) fun _ _ => Clean.of_raised

theorem reports_bind {program : Driver σ α} {next : α → Driver σ β} (first : Reports cfg program)
    (rest : ∀ value, Reports cfg (next value)) : Reports cfg (program >>= next) := fun world =>
  (wp_bind program next).mpr (wp_mono_ok (first world) fun value middle clean =>
    wp_mono_ok (rest value middle) fun _ _ clean' => clean.trans clean')

/-- A program that throws or raises an exception, and then one that leaves it pending. -/
theorem complains_bind {program : Driver σ α} {next : α → Driver σ β} (first : Complains program)
    (rest : ∀ value world, world.xsink ≠ [] → wp (next value) (fun _ after => after.xsink ≠ [])
      (fun _ _ => True) (fun _ _ => True) world) : Complains (program >>= next) := fun world =>
  (wp_bind program next).mpr (wp_mono_ok (first world) fun value middle => rest value middle)

/-- A program that ends by complaining. -/
theorem complains_bind_last {program : Driver σ α} {next : α → Driver σ β}
    (last : ∀ value, Complains (next value)) : Complains (program >>= next) := fun _ =>
  wp_bind_any last

theorem reports_when (condition : Prop) [Decidable condition] {program : Driver σ Unit}
    (reports : Reports cfg program) : Reports cfg (when condition program) := fun world =>
  (wp_when condition program).mpr ⟨fun _ => reports world, fun _ => Clean.of_eq rfl rfl⟩

/-- A condition under which a program complains, before a program that reports. -/
theorem complains_when {condition : Prop} [Decidable condition] (holds : condition)
    {program : Driver σ Unit} (complains : Complains program) :
    Complains (when condition program) :=
  fun world => (wp_when condition program).mpr ⟨fun _ => complains world,
    fun fails => absurd holds fails⟩

theorem reports_assert (assertion : Assertion) (condition : Bool) :
    Reports cfg (assert cfg assertion condition) := reports_when _ (reports_halt _)

theorem reports_getCommand (id : CommandId) : Reports cfg (getCommand id : Driver σ Command) :=
  fun _ => (wp_getCommand id).mpr ⟨fun _ _ => Clean.of_eq rfl rfl, fun _ => trivial⟩

/-- A call whose failure the rest of the program complains about. -/
theorem reports_call {site : Site} {call : CtCall} {next : Reply → Driver σ α}
    (complains : ∀ reply, call.Fails reply → Complains (next reply))
    (rest : ∀ reply, Reports cfg (next reply)) :
    Reports cfg (ctCallAt cfg site call >>= next) := by
  intro world
  rw [wp_bind, wp_ctCallAt]
  by_cases fails : call.Fails (cfg.lib.reply call world.env).1
  · exact wp_mono_ok (complains _ fails _) fun _ _ => Clean.of_raised
  · have first : Clean cfg world (world.answered cfg.lib site call) :=
      .of_entry ⟨world.depth, site, .call call _⟩ fails rfl rfl
    exact wp_mono_ok (rest _ _) fun _ _ clean => first.trans clean

theorem reports_iterate {reason : Halt} {body : α → Driver σ (α ⊕ β)}
    (step : ∀ loop, Reports cfg (body loop)) :
    ∀ bound loop, Reports cfg (iterate reason body bound loop) := by
  intro bound
  induction bound with
  | zero => exact fun _ => reports_halt _
  | succ bound inductionHypothesis =>
    intro loop
    refine reports_bind (step loop) fun result => ?_
    cases result with
    | inl again => exact inductionHypothesis again
    | inr value => exact reports_pure value

end Rules

/-! ### Reading -/

section Reading

variable (cfg : Config σ) (id : CommandId)

theorem reports_getValue (datafmt : Datafmt) (cell : Cell) :
    Reports cfg (getValue cfg datafmt cell) := by
  intro world
  rw [getValue, wp_bind, wp_modify]
  cases decoded : decode cfg datafmt cell with
  | value value =>
    refine Clean.of_entry ⟨world.depth, .other, .value datafmt cell⟩ ?_ rfl rfl
    rintro ⟨raised, isException⟩
    rw [decoded] at isException
    cases isException
  | exception raised => exact Clean.of_raised (List.cons_ne_nil _ _)
  | undefined => trivial

theorem reports_assign (h : Hash) (name : Text) (value : QoreValue) :
    Reports cfg (Command.assign h name value : Driver σ Hash) := by
  rw [Command.assign]
  split
  · exact reports_pure _
  · exact reports_halt _

theorem reports_outputBuffersToHash (ph : Option (List Text)) :
    Reports cfg (Command.outputBuffersToHash cfg id ph) := by
  refine reports_bind (reports_getCommand id) fun cmd => ?_
  generalize cmd.colinfo.datafmt = columns, cmd.outBuffers = buffers, 0 = index, ([] : Hash) = row
  induction columns generalizing buffers index row with
  | nil => exact reports_pure _
  | cons datafmt columns inductionHypothesis =>
    cases buffers with
    | nil => exact reports_halt _
    | cons buffer buffers =>
      refine reports_bind (reports_getValue cfg _ _) fun value => ?_
      refine reports_bind reports_isException fun raised => ?_
      split
      · exact reports_pure _
      · exact reports_bind (reports_assign cfg _ _ _) fun _ => inductionHypothesis _ _ _

theorem reports_setupColumnsIf (condition : Bool) (ph : Option (List Text)) (h : Hash) :
    Reports cfg (Command.setupColumnsIf condition id ph h : Driver σ Hash) := by
  rw [Command.setupColumnsIf]
  split
  · refine reports_bind (reports_getCommand id) fun cmd => ?_
    generalize cmd.colinfo.datafmt = columns, 0 = index
    induction columns generalizing index h with
    | nil => exact reports_pure _
    | cons datafmt columns inductionHypothesis =>
      exact reports_bind (reports_assign cfg _ _ _) fun _ => inductionHypothesis _ _
  · exact reports_pure _

theorem reports_appendBuffersToList (h : Hash) :
    Reports cfg (Command.appendBuffersToList cfg id h) := by
  refine reports_bind (reports_getCommand id) fun cmd => ?_
  generalize cmd.colinfo.datafmt = columns, cmd.outBuffers = buffers
  induction columns generalizing buffers h with
  | nil => exact reports_pure _
  | cons datafmt columns inductionHypothesis =>
    rw [Command.appendFrom.eq_def]
    split
    · exact reports_pure _
    · rename_i same
      cases same
      refine reports_bind (reports_getValue cfg _ _) fun value => ?_
      refine reports_bind reports_isException fun raised => ?_
      split
      · exact reports_pure _
      · exact reports_bind (inductionHypothesis _ _) fun _ => reports_pure _
    · exact reports_halt _

theorem reports_getColumnCount : Reports cfg (Command.getColumnCount cfg id) := by
  refine reports_bind (reports_getCommand id) fun cmd => reports_call
      (fun reply (failed : reply.code ≠ .succeed) => ?_)
    fun reply => ?_
  · exact complains_bind (complains_when failed (complains_doException _ _))
      fun _ world pending => by
      rw [wp_bind, wp_when, wp_doException]
      exact ⟨fun _ => trivial, fun _ => pending⟩
  · exact reports_bind (reports_when _ (complains_doException _ _).reports) fun _ =>
      reports_bind (reports_when _ (complains_doException _ _).reports) fun _ => reports_pure _

theorem reports_getRowDescription (remaining index : Nat) :
    Reports cfg (Command.getRowDescription cfg id remaining index) := by
  induction remaining generalizing index with
  | zero => exact reports_pure _
  | succ remaining inductionHypothesis =>
    refine reports_bind (reports_getCommand id) fun cmd => reports_call
      (fun reply (failed : reply.code ≠ .succeed) => ?_)
      fun reply => ?_
    · rw [if_pos failed]
      exact complains_thrown _ _ _
    · split
      · exact (complains_thrown _ _ _).reports
      · exact reports_bind reports_get fun _ =>
          reports_bind (reports_modifyCommand id _) fun _ => inductionHypothesis _

theorem reports_bindColumns (columns : List Datafmt) (index : Nat) :
    Reports cfg (Command.bindColumns cfg id columns index) := by
  induction columns generalizing index with
  | nil => exact reports_pure _
  | cons datafmt columns inductionHypothesis =>
    refine reports_bind (reports_modifyCommand id _) fun _ => ?_
    refine reports_bind (reports_getCommand id) fun cmd => reports_call
      (fun reply (failed : reply.code ≠ .succeed) => ?_)
      fun reply => ?_
    · rw [if_pos failed]
      exact complains_thrown _ _ _
    · split
      · exact (complains_thrown _ _ _).reports
      · exact inductionHypothesis _

theorem reports_retrColinfo : Reports cfg (Command.retrColinfo cfg id) := by
  refine reports_bind (reports_getColumnCount cfg id) fun columns => ?_
  refine reports_bind reports_isException fun raised => ?_
  split
  · exact reports_pure _
  · refine reports_bind (reports_modifyCommand id _) fun _ => ?_
    refine reports_bind (reports_getRowDescription cfg id _ _) fun _ => ?_
    refine reports_bind (reports_getCommand id) fun cmd => ?_
    refine reports_bind (reports_bind (reports_modifyCommand id _) fun _ =>
      reports_bindColumns cfg id _ _) fun _ => ?_
    exact reports_bind (reports_modifyCommand id _) fun _ => reports_pure _

theorem reports_ensureColinfo : Reports cfg (Command.ensureColinfo cfg id) := by
  refine reports_bind (reports_getCommand id) fun cmd => ?_
  split
  · exact reports_retrColinfo cfg id
  · exact reports_pure _

theorem reports_fetchRowIntoBuffers : Reports cfg (Command.fetchRowIntoBuffers cfg id) := by
  refine reports_bind (reports_getCommand id) fun cmd => reports_call (fun reply failed => ?_)
    fun reply => ?_
  · split
    · rename_i succeeded
      have rows : reply.number ≠ 1 := fun one => failed.1 ⟨succeeded, one⟩
      exact complains_bind_last fun _ => complains_bind
        (complains_when rows (complains_doException _ _)) fun _ _ pending => pending
    · rename_i endData
      exact absurd endData failed.2
    · exact complains_thrown _ _ _
    · exact complains_thrown _ _ _
  · split
    · exact reports_bind (reports_modifyCommand id _) fun _ =>
        reports_bind (reports_when _ (complains_doException _ _).reports) fun _ => reports_pure _
    · exact reports_bind (reports_modifyCommand id _) fun _ => reports_pure _
    · exact (complains_thrown _ _ _).reports
    · exact (complains_thrown _ _ _).reports

theorem reports_readRows (ph : Option (List Text)) (singleRow : Bool) :
    Reports cfg (Command.readRows cfg id ph singleRow) := by
  refine reports_bind (reports_ensureColinfo cfg id) fun failed => ?_
  split
  · exact reports_pure _
  · refine reports_iterate (fun rows => ?_) _ _
    refine reports_bind (reports_fetchRowIntoBuffers cfg id) fun more => ?_
    split
    · refine reports_bind (reports_outputBuffersToHash cfg id ph) fun row => ?_
      refine reports_bind reports_isException fun raised => ?_
      split
      · exact reports_pure _
      · split
        · exact reports_bind (complains_raiseException _ _).reports fun _ => reports_pure _
        · exact reports_pure _
    · exact reports_pure _

theorem reports_readCols (ph : Option (List Text)) (cnt : Int) (cols : Bool) :
    Reports cfg (Command.readCols cfg id ph cnt cols) := by
  refine reports_bind (reports_ensureColinfo cfg id) fun failed => ?_
  split
  · exact reports_pure _
  · refine reports_bind reports_isException fun raised => ?_
    split
    · exact reports_pure _
    · refine reports_bind (reports_setupColumnsIf cfg id _ _ _) fun h => ?_
      refine reports_iterate (fun (left, h) => ?_) _ _
      refine reports_bind (reports_fetchRowIntoBuffers cfg id) fun more => ?_
      split
      · refine reports_bind (reports_setupColumnsIf cfg id _ _ _) fun h => ?_
        refine reports_bind (reports_appendBuffersToList cfg id h) fun appended => ?_
        split
        · exact reports_pure _
        · split
          · exact reports_pure _
          · exact reports_pure _
      · exact reports_pure _

theorem reports_readRowsOrCols (ph : Option (List Text)) (list cols singleRow : Bool) :
    Reports cfg (Command.readRowsOrCols cfg id ph list cols singleRow) := by
  refine reports_bind (reports_ensureColinfo cfg id) fun failed => ?_
  split
  · exact reports_pure _
  · split
    · exact reports_readRows cfg id ph singleRow
    · exact reports_bind (reports_readCols cfg id ph _ cols) fun _ => reports_pure _

theorem reports_readRowCount : Reports cfg (Command.readRowCount cfg id) := by
  refine reports_bind (reports_modifyCommand id _) fun _ => ?_
  refine reports_bind (reports_getCommand id) fun cmd => reports_call
    (fun reply (failed : reply.code ≠ .succeed) => ?_) fun reply => ?_
  · rw [if_pos failed]
    exact complains_thrown _ _ _
  · split
    · exact (complains_thrown _ _ _).reports
    · exact reports_bind (reports_modifyCommand id _) fun _ => reports_pure _

theorem reports_announced (type : ResultType) : Reports cfg (Command.announced cfg id type) := by
  cases type with
  | cmdDone => exact reports_readRowCount cfg id
  | cmdFail => exact (complains_thrown _ _ _).reports
  | other type => exact (complains_thrown _ _ _).reports
  | _ => exact reports_pure _

/-- A result that is the failure of the command, or an unknown one. -/
theorem complains_announced {type : ResultType}
    (failed : type = .cmdFail ∨ ∃ code, type = .other code) :
    Complains (Command.announced cfg id type) := by
  rcases failed with rfl | ⟨code, rfl⟩
  · exact complains_thrown _ _ _
  · exact complains_thrown _ _ _

theorem reports_cancelIntern (site : Site) : Reports cfg (Command.cancelIntern cfg site id) := by
  refine reports_bind (reports_getCommand id) fun cmd => ?_
  refine reports_bind (reports_assert _ _) fun _ => ?_
  intro world
  rw [wp_bind, wp_ctCallAt]
  exact .of_entry ⟨world.depth, site, .call (.cancel cmd.mCmd) _⟩ (fun failed => failed) rfl rfl

theorem reports_readNextResult1 (disconnect : Bool) :
    Reports cfg (Command.readNextResult1 cfg id disconnect) := by
  refine reports_bind reports_isException fun raised => ?_
  split
  · exact reports_pure _
  · refine reports_bind (reports_getCommand id) fun cmd => ?_
    split
    · exact reports_pure _
    · refine reports_call (fun reply failed => ?_) fun reply => ?_
      · split
        · rename_i code
          exact absurd code (by rcases failed with failed | failed <;> simp_all)
        · exact complains_bind_last fun _ => complains_bind (complains_raiseException _ _)
            fun _ _ pending => pending
        · rename_i code
          have unknown : reply.resultType = .cmdFail ∨ ∃ type, reply.resultType = .other type :=
            failed.elim (fun other => absurd code other.1) fun announced => announced.2
          exact complains_bind (complains_announced cfg id unknown) fun _ _ pending => pending
        · exact complains_thrown _ _ _
      · split
        · exact reports_pure _
        · exact reports_bind (reports_cancelIntern cfg id _) fun _ =>
            reports_bind (complains_raiseException _ _).reports fun _ => reports_pure _
        · exact reports_bind (reports_announced cfg id _) fun _ => reports_pure _
        · exact (complains_thrown _ _ _).reports

theorem reports_readNextResult : Reports cfg (Command.readNextResult cfg id) := by
  refine reports_iterate (fun disconnect => ?_) _ _
  refine reports_bind (reports_readNextResult1 cfg id disconnect) fun (res, lost) => ?_
  refine reports_bind (reports_modifyCommand id _) fun _ => ?_
  split
  · exact reports_pure _
  · exact reports_pure _

end Reading

/-! ### Reading with a reconnect -/

section Output

variable (cfg : Config σ) (bound : Nat) (id : CommandId)

/-- A connection that is lost while reading is lost with an exception pending, which no reconnect
takes back. -/
theorem reports_connectionReadNextResult :
    Reports cfg (Connection.readNextResult cfg (closeAndReconnect cfg bound) id) := by
  refine reports_bind reports_isException fun raised => ?_
  split
  · exact reports_pure _
  · intro world
    rw [wp_bind]
    refine wp_mono (wp_and (reports_readNextResult cfg id world)
      (wp_readNextResult_disconnect id world)) ?_ (fun _ _ _ => trivial) fun _ _ _ => trivial
    rintro ⟨rc, disconnect⟩ after ⟨clean, pending⟩
    cases disconnect with
    | false => exact clean
    | true =>
      dsimp only
      rw [if_pos rfl, wp_bind]
      refine wp_mono (SinkKept.keeps_closeAndReconnect cfg bound id false after) ?_
        (fun _ _ _ => trivial) fun _ _ _ => trivial
      exact fun _ _ kept => Clean.of_raised (kept (pending rfl))

theorem reports_readOutputResult (list cols singleRow : Bool) (rf : ResultFactory) (rt : ResType) :
    Reports cfg (readOutputResult cfg id list cols singleRow rf rt) := by
  rw [readOutputResult.eq_def]
  split
  · exact reports_pure _
  · refine reports_bind (reports_retrColinfo cfg id) fun failed => ?_
    split
    · exact reports_pure _
    · refine reports_bind (reports_getCommand id) fun cmd => ?_
      split
      · exact reports_throw _
      · refine reports_bind (reports_readRows cfg id _ _) fun qresult => ?_
        refine reports_bind reports_isException fun raised => ?_
        split
        · exact reports_pure _
        · exact reports_pure _
  · refine reports_bind (reports_readRowsOrCols cfg id _ _ _ _) fun qresult => ?_
    refine reports_bind reports_isException fun raised => ?_
    split
    · exact reports_pure _
    · exact reports_pure _
  · exact reports_pure _
  · exact reports_bind (reports_getCommand id) fun cmd => reports_pure _
  · refine reports_bind (reports_retrColinfo cfg id) fun failed => ?_
    split
    · exact reports_pure _
    · exact reports_bind (reports_readRowsOrCols cfg id _ _ _ _) fun _ =>
        reports_bind (reports_modifyCommand id _) fun _ => reports_pure _
  · exact (complains_thrown _ _ _).reports

theorem reports_readOutput (list cols singleRow : Bool) :
    Reports cfg (readOutput cfg (closeAndReconnect cfg bound) id list cols singleRow) := by
  refine reports_iterate (fun rf => ?_) _ _
  refine reports_bind (reports_connectionReadNextResult cfg bound id) fun rt => ?_
  refine reports_bind reports_isException fun raised => ?_
  split
  · exact reports_pure _
  · exact reports_readOutputResult cfg id list cols singleRow rf rt

/-- What ends the loop of `readOutput` is NOTHING where an exception is pending. -/
def EndsWithNothing (result : ResultFactory ⊕ QoreValue) (after : World σ) : Prop :=
  ∀ value, result = .inr value → after.xsink ≠ [] → value = .nothing

theorem EndsWithNothing.again (rf : ResultFactory) (after : World σ) :
    EndsWithNothing (.inl rf) after := fun _ same => nomatch same

theorem EndsWithNothing.nothing (after : World σ) : EndsWithNothing (.inr .nothing) after :=
  fun _ same _ => (Sum.inr.inj same).symm

theorem wp_readOutputResult_nothing (list cols singleRow : Bool) (rf : ResultFactory) (rt : ResType)
    {world : World σ} (quiet : world.xsink = []) :
    wp (readOutputResult cfg id list cols singleRow rf rt) EndsWithNothing (fun _ _ => True)
      (fun _ _ => True) world := by
  rw [readOutputResult.eq_def]
  split
  · exact .nothing _
  · refine wp_bind_any fun failed after => ?_
    split
    · exact .nothing _
    · refine wp_bind_any fun cmd after => ?_
      split
      · trivial
      · refine wp_bind_any fun qresult after => wp_bind_any fun raised after => ?_
        split
        · exact .nothing _
        · exact .again _ _
  · refine wp_bind_any fun qresult after => wp_bind_any fun raised after => ?_
    split
    · exact .nothing _
    · exact .again _ _
  · exact fun _ _ raised => absurd quiet raised
  · exact wp_bind_any fun cmd after => .again _ _
  · refine wp_bind_any fun failed after => ?_
    split
    · exact .nothing _
    · exact wp_bind_any fun qresult after => wp_bind_any fun _ after => .again _ _
  · rw [wp_bind, wp_doException]
    trivial

theorem wp_readOutputOnce_nothing (reconnect : Reconnect σ) (list cols singleRow : Bool)
    (rf : ResultFactory) (world : World σ) :
    wp (readOutputOnce cfg reconnect id list cols singleRow rf) EndsWithNothing (fun _ _ => True)
      (fun _ _ => True) world := by
  refine wp_bind_any fun rt after => ?_
  rw [wp_bind, wp_isException]
  split
  · exact .nothing _
  · rename_i quiet
    exact wp_readOutputResult_nothing cfg id list cols singleRow rf rt
      (List.isEmpty_iff.mp (by simpa using quiet))

/-- With an exception pending the result of `readOutput` is NOTHING. -/
theorem wp_readOutput_nothing (reconnect : Reconnect σ) (list cols singleRow : Bool)
    (world : World σ) : wp (readOutput cfg reconnect id list cols singleRow)
      (fun value after => after.xsink ≠ [] → value = .nothing) (fun _ _ => True) (fun _ _ => True)
      world := by
  refine wp_iterate (fun _ _ => True) (fun _ _ _ => trivial) (fun rf world _ => ?_) _ _ _ trivial
  refine wp_mono_ok (wp_readOutputOnce_nothing cfg id reconnect list cols singleRow rf world) ?_
  rintro (again | value) after ends
  · trivial
  · exact ends value rfl

end Output

end Sybase
